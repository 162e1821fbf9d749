import Remedy.Text.Blank
import Remedy.Text.Lines

/-!
Path filters. Of a list of raw paths those are kept that end in one of the extensions and begin
with none of the excluded starts, each once and in the order in which they first stand.
-/

namespace Remedy

structure PathFilter where
  extensions : List String
  excluded : List String
  deriving Repr, DecidableEq

namespace PathFilter

def default : PathFilter :=
  ⟨[".js"], ["scripts/", "securityagent/"]⟩

/-- A raw path without white space around it and with slashes for backslashes. -/
def normalize (raw : String) : String :=
  String.ofList ((Text.stripChars raw.toList).map fun c => if c = '\\' then '/' else c)

def beginsWith (text start : String) : Bool :=
  start.toList.isPrefixOf text.toList

def endsIn (text ending : String) : Bool :=
  ending.toList.isSuffixOf text.toList

def hasExtension (filter : PathFilter) (path : String) : Bool :=
  filter.extensions.any fun e => endsIn path e

def excludes (filter : PathFilter) (path : String) : Bool :=
  filter.excluded.any fun start => beginsWith path start

def keeps (filter : PathFilter) (path : String) : Bool :=
  path ≠ "" && filter.hasExtension path && !filter.excludes path

/-- The members of a list that are kept and do not stand in `seen`, each once. -/
def selectFrom (filter : PathFilter) (seen : List String) : List String → List String
  | [] => []
  | path :: rest =>
    if filter.keeps path && !seen.contains path then
      path :: filter.selectFrom (path :: seen) rest
    else filter.selectFrom seen rest

def select (filter : PathFilter) (raw : List String) : List String :=
  filter.selectFrom [] (raw.map normalize)

end PathFilter

end Remedy
