/-!
# Names

A qualified name has a namespace and is used to address; a localized text has a locale and is used
to show. The standard namespace is left out when a qualified name is written.

Spec: `SPEC_FULL.md` §11.1.
-/

namespace AlarmServer

/-- A name within a namespace. Spec §11.1. -/
structure QualifiedName where
  /-- Namespace index; 0 is the standard namespace. -/
  ns : UInt16
  /-- The name. -/
  name : String
  deriving DecidableEq

namespace QualifiedName

/-- A name of the standard namespace. -/
def standard (name : String) : QualifiedName := ⟨0, name⟩

/-- The name, after its namespace unless that is the standard one. -/
def text (q : QualifiedName) : String :=
  if q.ns = 0 then q.name else toString q.ns.toNat ++ ":" ++ q.name

instance : ToString QualifiedName := ⟨text⟩

/-- By namespace, then by name. -/
def compare (a b : QualifiedName) : Ordering :=
  (Ord.compare a.ns.toNat b.ns.toNat).then (Ord.compare a.name b.name)

/-- The names in increasing order, equal ones as often as they occur. -/
def sort (names : List QualifiedName) : List QualifiedName :=
  names.mergeSort fun a b => a.compare b != .gt

end QualifiedName

/-- A text for people. Spec §11.1. -/
structure LocalizedText where
  /-- The language, or empty. -/
  locale : String
  /-- The text. -/
  text : String
  deriving DecidableEq

namespace LocalizedText

/-- A text in no particular language. -/
def plain (text : String) : LocalizedText := ⟨"", text⟩

end LocalizedText

end AlarmServer
