/-
# Fields

A field is a name and a value, written on a line of its own as `name = value`. A value is a
number, a text, which is written as a quoted string, or a literal, which is written as it was
read.
-/
import ClusterConfig.Text.Lines
import ClusterConfig.Text.Numeral
import ClusterConfig.Text.Quoted.Basic

namespace ClusterConfig

open Text

/-- The value of a field. -/
inductive Value where
  | number (n : Nat)
  | text (content : String)
  /-- A value in the notation of the document, with or without the end of the line it was read
  from. -/
  | literal (source : String)
  deriving DecidableEq, Repr

/-- A literal without the end of its line: one line feed and all carriage returns before it. -/
def Value.literalChars (source : List Char) : List Char :=
  dropEndWhile (· = '\r') (dropLineFeed source)

/-- A value as it is written. -/
def Value.chars : Value → List Char
  | .number n => decimal n
  | .text content => Quoted.encode content.toList
  | .literal source => literalChars source.toList

/-- A name and a value. -/
structure Field where
  name : String
  value : Value
  deriving DecidableEq, Repr

/-- The line of a field. -/
def Field.chars (field : Field) : List Char :=
  field.name.toList ++ [' ', '=', ' '] ++ field.value.chars ++ ['\n']

end ClusterConfig
