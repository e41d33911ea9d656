import BucketMount.Format.Basic
import BucketMount.Json.Canonical
import BucketMount.Json.Reader
import BucketMount.Json.Writer

/-!
# Whole documents

A document is a text with one value and nothing but blanks behind it. A value is
written in the compact form.
-/

namespace BucketMount.Format

variable {α : Type}

/-- Reads a whole text. What stands behind the value is looked at last. -/
def ofText (format : Format α) (text : String) : Except Json.Refusal α := do
  let (tree, rest) := Json.read text
  let value ← format.decode .text tree
  Json.finish rest
  pure value

/-- The text of a value. -/
def toText (format : Format α) (value : α) : String := (format.encode value).text

/-- Trees of any shape, kept in their canonical form. -/
def unstructured : Format Json where
  decode _ := Json.canonical
  encode := id
  schema := .unstructured
  shown := Json.text

end BucketMount.Format
