import Upsert.Text.Basic

/-!
# The three choices of an upsert

An upsert table chooses a hash for its primary keys, a read consistency and a mode. Each choice
is an enumeration whose members have an upper-case name and a lower_snake value; the value is
what configuration files and environment variables spell. `Choice` describes one of the three
enumerations, so that reading and printing are written once for all of them.
-/

namespace Upsert

/-- Hash applied to primary key values before they enter the key index. -/
inductive HashFunction where
  | none | md5 | murmur3 | uuid
deriving DecidableEq, Repr, Inhabited

/-- Read consistency offered by the upsert view. -/
inductive ConsistencyMode where
  | none | sync | snapshot
deriving DecidableEq, Repr, Inhabited

/-- How a new record replaces the old one: whole, column-wise, or not at all. -/
inductive UpsertMode where
  | full | partialMerge | none
deriving DecidableEq, Repr, Inhabited

/-- One of the three enumerations. -/
inductive Choice where
  | hashFunction | consistencyMode | upsertMode
deriving DecidableEq, Repr

/-- A member of one of the three enumerations. -/
inductive Member where
  | hash (h : HashFunction)
  | consistency (c : ConsistencyMode)
  | mode (m : UpsertMode)
deriving DecidableEq, Repr

namespace Choice

/-- The name of the enumeration. -/
def name : Choice → Text
  | .hashFunction => "HashFunction"
  | .consistencyMode => "ConsistencyMode"
  | .upsertMode => "UpsertMode"

/-- The word that names the choice in messages about a value of it. -/
def label : Choice → Text
  | .hashFunction => "hash_function"
  | .consistencyMode => "consistency_mode"
  | .upsertMode => "upsert_mode"

/-- The members, in the order of their declaration. -/
def members : Choice → List Member
  | .hashFunction => [.hash .none, .hash .md5, .hash .murmur3, .hash .uuid]
  | .consistencyMode => [.consistency .none, .consistency .sync, .consistency .snapshot]
  | .upsertMode => [.mode .full, .mode .partialMerge, .mode .none]

end Choice

namespace Member

/-- The enumeration a member belongs to. -/
def choice : Member → Choice
  | .hash _ => .hashFunction
  | .consistency _ => .consistencyMode
  | .mode _ => .upsertMode

/-- The upper-case name of a member. -/
def name : Member → Text
  | .hash .none | .consistency .none | .mode .none => "NONE"
  | .hash .md5 => "MD5"
  | .hash .murmur3 => "MURMUR3"
  | .hash .uuid => "UUID"
  | .consistency .sync => "SYNC"
  | .consistency .snapshot => "SNAPSHOT"
  | .mode .full => "FULL"
  | .mode .partialMerge => "PARTIAL"

/-- The lower_snake value of a member. -/
def value : Member → Text
  | .hash .none | .consistency .none | .mode .none => "none"
  | .hash .md5 => "md5"
  | .hash .murmur3 => "murmur3"
  | .hash .uuid => "uuid"
  | .consistency .sync => "sync"
  | .consistency .snapshot => "snapshot"
  | .mode .full => "full"
  | .mode .partialMerge => "partial"

end Member

/-- The member of `c` whose value is `t`, if any. -/
def Choice.lookup (c : Choice) (t : Text) : Option Member :=
  c.members.find? (·.value = t)

theorem Choice.choice_of_mem_members {c : Choice} {m : Member} (h : m ∈ c.members) :
    m.choice = c := by
  cases c <;> simp only [members, List.mem_cons, List.not_mem_nil, or_false] at h <;>
    rcases h with rfl | rfl | rfl | rfl <;> rfl

end Upsert
