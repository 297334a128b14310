/-!
# Access levels

What a client may do with a variable, as a set of bits.

Spec: `SPEC_FULL.md` §11.5.
-/

namespace AlarmServer

/-- A set of access rights. Spec §11.5, `AccessLevel`. -/
structure AccessLevel where
  /-- The rights as bits. -/
  bits : UInt8
  deriving DecidableEq

namespace AccessLevel

/-- No rights. -/
def none : AccessLevel := ⟨0⟩

/-- The right to read. -/
def read : AccessLevel := ⟨1⟩

/-- The right to write. -/
def write : AccessLevel := ⟨2⟩

/-- The rights of either level. -/
def union (a b : AccessLevel) : AccessLevel := ⟨a.bits ||| b.bits⟩

/-- The rights of both levels. -/
def inter (a b : AccessLevel) : AccessLevel := ⟨a.bits &&& b.bits⟩

/-- Are all rights of `b` among those of `a`? -/
def contains (a b : AccessLevel) : Bool := a.bits &&& b.bits = b.bits

/-- The rights to read and write. -/
def readWrite : AccessLevel := union read write

/-- Is reading allowed? -/
def canRead (a : AccessLevel) : Bool := a.contains read

/-- Is writing allowed? -/
def canWrite (a : AccessLevel) : Bool := a.contains write

/-- What the level allows, in words. -/
def text (a : AccessLevel) : String :=
  match a.canRead, a.canWrite with
  | true, true => "read/write"
  | true, false => "read-only"
  | false, true => "write-only"
  | false, false => "none"

instance : ToString AccessLevel := ⟨text⟩

private theorem contains_iff {a b : AccessLevel} :
    a.contains b = true ↔ a.bits &&& b.bits = b.bits :=
  decide_eq_true_iff

/-- Rights are among those of both levels if they are among those of each. -/
theorem contains_inter_iff {a b c : AccessLevel} :
    (a.inter b).contains c = true ↔ a.contains c = true ∧ b.contains c = true := by
  rw [contains_iff, contains_iff, contains_iff]
  show a.bits &&& b.bits &&& c.bits = c.bits ↔ _
  constructor
  · intro h
    constructor
    · rw [← h, UInt8.and_assoc, ← UInt8.and_assoc a.bits a.bits, UInt8.and_self]
    · rw [← h, UInt8.and_comm a.bits, UInt8.and_assoc, ← UInt8.and_assoc b.bits b.bits,
        UInt8.and_self]
  · rintro ⟨ha, hb⟩
    rw [UInt8.and_assoc, hb, ha]

/-- The diagnostic text. -/
def debugText (a : AccessLevel) : String := "AccessLevel(" ++ toString a.bits.toNat ++ ")"

end AccessLevel

end AlarmServer
