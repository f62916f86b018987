import Blockwork.Failure
import Blockwork.Files.Path
import Blockwork.Text.Case
import Blockwork.Text.Quoted

/-!
# Artifacts

What a program can be lowered to: an object file, assembly or textual LLVM. A kind of artifact is a
code; every code without another meaning is an object file.
-/

namespace Blockwork

/-- What a program is lowered to. -/
structure ArtifactKind where
  /-- The code. -/
  code : UInt8
deriving DecidableEq, Repr

namespace ArtifactKind

/-- An object file. -/
def object : ArtifactKind := ⟨0⟩

/-- Assembly. -/
def assembly : ArtifactKind := ⟨1⟩

/-- Textual LLVM. -/
def llvm : ArtifactKind := ⟨2⟩

/-- The word for a kind. -/
def name (kind : ArtifactKind) : String :=
  if kind = assembly then "asm" else if kind = llvm then "llvm" else "obj"

/-- The kind that a word names; nothing named is an object file. -/
def parse (word : Bytes) : Except Failure ArtifactKind :=
  let lowered := Text.lower word
  if ["", "obj", "object"].any fun known => lowered = utf8 known then .ok object
  else if ["asm", "s"].any fun known => lowered = utf8 known then .ok assembly
  else if ["llvm", "ll"].any fun known => lowered = utf8 known then .ok llvm
  else
    .error (.text (utf8 "unknown output kind " ++ Text.Quoted.text word ++
      utf8 " (expected obj|asm|llvm)"))

/-- The kind that the name of a file suggests. -/
def ofPath (path : Bytes) : ArtifactKind :=
  let suffix := Text.lower (Path.extension path)
  if suffix = utf8 ".ll" then llvm
  else if suffix = utf8 ".s" ∨ suffix = utf8 ".asm" then assembly
  else object

/-- The ending of the names of files of a kind. -/
def suffix (kind : ArtifactKind) : String :=
  if kind = llvm then ".ll" else if kind = assembly then ".s" else ".o"

/-- The path of the artifact of a file. -/
def outputPath (kind : ArtifactKind) (directory file : Bytes) : Bytes :=
  let name := Path.base file
  Path.join [directory, Bytes.trimEnding (Path.extension name) name ++ utf8 kind.suffix]

end ArtifactKind
end Blockwork
