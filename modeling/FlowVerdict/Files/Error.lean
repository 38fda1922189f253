/-!
Why a file cannot be used, in the words of the operating system.
-/

namespace FlowVerdict

/-- Why a file cannot be read or written. -/
inductive FileError where
  | missing
  | isDirectory
  | notDirectory
  /-- The path or a name in it has too many bytes. -/
  | tooLong
  /-- The file holds no text. -/
  | notText
  /-- The path holds a zero character. -/
  | zeroInPath
  | other (reason : String)
deriving DecidableEq

def FileError.message : FileError → String
  | .missing => "No such file or directory (os error 2)"
  | .isDirectory => "Is a directory (os error 21)"
  | .notDirectory => "Not a directory (os error 20)"
  | .tooLong => "File name too long (os error 36)"
  | .notText => "stream did not contain valid UTF-8"
  | .zeroInPath => "file name contained an unexpected NUL byte"
  | .other reason => reason

/-- The text that the bytes of a file spell. -/
def FileError.textOf? (bytes : List UInt8) : Except FileError String :=
  match String.fromUTF8? (ByteArray.mk bytes.toArray) with
  | some text => .ok text
  | none => .error .notText

end FlowVerdict
