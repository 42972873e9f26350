/-
The version that a build is stamped with: the one given to the build, else
the description of the working copy, else none.
-/
import PermScript.Text.CharSet
import PermScript.Text.Utf8

namespace PermScript.VersionStamp

/-- What the command that describes the working copy is asked. -/
def describeArguments : List String := ["describe", "--tags", "--always", "--dirty"]

/-- What that command answers. -/
structure Description where
  output : ByteArray
  exit : Nat

/-- The version given to the build; bytes that are no text count as none. -/
def givenVersion? (given : Option ByteArray) : Option String :=
  given.bind String.fromUTF8?

/-- Whether the working copy has to be described. -/
def needsDescription (given : Option ByteArray) : Bool := (givenVersion? given).isNone

/-- The version of a description, if the command succeeded. -/
def Description.version? (d : Description) : Option String :=
  if d.exit = 0 then some (Text.trim (Text.decodeLossy d.output)) else none

/-- The version of a build, from the one given or the description. -/
def version? (given : Option ByteArray) (described : Option Description) : Option String :=
  match givenVersion? given with
  | some version => some version
  | none => described.bind Description.version?

/-- The instructions of the stamp to the build. -/
def instructions (version : Option String) : List String :=
  (version.map ("cargo:rustc-env=PERMS_MIGRATE_VERSION=" ++ ·)).toList ++
    ["cargo:rerun-if-changed=.git/HEAD", "cargo:rerun-if-changed=.git/refs/",
      "cargo:rerun-if-env-changed=PERMS_MIGRATE_VERSION"]

end PermScript.VersionStamp
