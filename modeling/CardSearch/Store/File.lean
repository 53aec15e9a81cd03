/-!
# Files

What a program finds when it reads a file. A file that is there but is a
directory, may not be read or is not UTF-8 cannot be used.
-/

namespace CardSearch

inductive File where
  | missing
  | unreadable
  | text (content : String)
deriving DecidableEq, Repr

namespace File

/-- The file that holds the bytes. -/
def ofBytes (bytes : ByteArray) : File :=
  match String.fromUTF8? bytes with
  | some content => text content
  | none => unreadable

/-- Whether there is something at the path. -/
def isPresent : File → Bool
  | missing => false
  | _ => true

end File

end CardSearch
