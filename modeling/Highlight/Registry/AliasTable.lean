import Highlight.Dict
import Highlight.Registry.Error

/-!
# Alias tables

An alias stands for its direct target, which is the name of a language or another alias.  A name is
resolved by following direct targets until the name of a language is met.  The names on the way are
the *chain* of the name; a table of `n` aliases has no chain of more than `n + 1` different names,
so that a longer walk goes round in a circle.
-/

namespace Highlight

/-- Each alias with its direct target. -/
structure AliasTable where
  targets : Dict String
  deriving DecidableEq

namespace AliasTable

/-- The table without aliases. -/
def empty : AliasTable := ⟨.empty⟩

instance : Inhabited AliasTable := ⟨empty⟩

def size (t : AliasTable) : Nat := t.targets.size

def isEmpty (t : AliasTable) : Bool := t.targets.isEmpty

def contains (t : AliasTable) (name : String) : Bool := t.targets.contains name

/-- The direct target of an alias. -/
def target? (t : AliasTable) (name : String) : Option String := t.targets.get? name

/-- The aliases, in the order of their first declaration. -/
def names (t : AliasTable) : List String := t.targets.keys

/-- Points an alias, new or old, at a target. -/
def insert (t : AliasTable) (name target : String) : AliasTable := ⟨t.targets.insert name target⟩

def erase (t : AliasTable) (name : String) : AliasTable := ⟨t.targets.erase name⟩

@[simp] theorem target?_insert (t : AliasTable) (name target other : String) :
    (t.insert name target).target? other = if other = name then some target else t.target? other :=
  t.targets.get?_insert name target other

@[simp] theorem target?_erase (t : AliasTable) (name other : String) :
    (t.erase name).target? other = if other = name then none else t.target? other :=
  t.targets.get?_erase name other

theorem contains_eq_false_iff {t : AliasTable} {name : String} :
    t.contains name = false ↔ t.target? name = none :=
  Option.isSome_eq_false_iff.trans Option.isNone_iff_eq_none

theorem target?_insert_of_ne {t : AliasTable} {name target other : String} (h : other ≠ name) :
    (t.insert name target).target? other = t.target? other := by
  rw [target?_insert, if_neg h]

theorem target?_erase_of_ne {t : AliasTable} {name other : String} (h : other ≠ name) :
    (t.erase name).target? other = t.target? other := by
  rw [target?_erase, if_neg h]

/-- Pointing an alias at the target that it has already changes nothing. -/
theorem insert_eq_self {t : AliasTable} {name target : String} (h : t.target? name = some target) :
    t.insert name target = t :=
  congrArg mk (Dict.insert_eq_self h)

/-! ## Chains -/

/-- The name reached from `name` after following `n` direct targets, if there are so many. -/
def walk (t : AliasTable) (name : String) : Nat → Option String
  | 0 => some name
  | n + 1 => (t.walk name n).bind t.target?

/-- A name lies on the chain of `name`. -/
def OnChain (t : AliasTable) (name other : String) : Prop := ∃ n, t.walk name n = some other

/-! ## Resolving -/

/-- Looks at the given number of names of a chain, starting with `current`, for a language. -/
def follow (t : AliasTable) (isLanguage : String → Bool) (name : String) :
    Nat → String → Except RegistryError String
  | 0, _ => .error (.cycle name)
  | steps + 1, current =>
    if isLanguage current then .ok current
    else
      match t.target? current with
      | some next => t.follow isLanguage name steps next
      | none => .error (.unknownLanguage name)

/-- The first language on the chain of a name. -/
def resolve (t : AliasTable) (name : String) (isLanguage : String → Bool) :
    Except RegistryError String :=
  t.follow isLanguage name (t.size + 1) name

end AliasTable

end Highlight
