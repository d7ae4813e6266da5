import LiveJson.Json.Printer

/-!
# The sample document

A document to try the program with.
-/

set_option autoImplicit false

namespace LiveJson

open Json

/-- The sample document. -/
def sample : Value :=
  .map [
    ("name", .string "John Doe"),
    ("age", .number (.natural 30 (by decide))),
    ("email", .string "john.doe@example.com"),
    ("address", .map [
      ("street", .string "123 Main St"),
      ("city", .string "Anytown"),
      ("zipCode", .string "12345"),
      ("country", .string "USA")]),
    ("hobbies", .list [.string "reading", .string "swimming", .string "coding"]),
    ("isActive", .bool true),
    ("lastLogin", .null)]

/-- The sample document as it is written. -/
def sampleText : String := sample.text

end LiveJson
