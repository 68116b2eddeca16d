import NetQuery.Json.Basic

namespace NetQuery

def KeysIncrease (entries : List (String × Json)) : Prop :=
  entries.Pairwise fun a b => a.1 < b.1

theorem mem_insertMember {key k : String} {value v : Json} {entries : List (String × Json)}
    (h : (k, v) ∈ Json.insertMember key value entries) :
    k = key ∨ ∃ w, (k, w) ∈ entries := by
  induction entries with
  | nil => simp [Json.insertMember] at h; exact .inl h.1
  | cons e rest ih =>
    obtain ⟨k', v'⟩ := e
    unfold Json.insertMember at h
    split at h
    · rcases List.mem_cons.mp h with h | h
      · exact .inl (Prod.mk.inj h).1
      · exact .inr ⟨v, List.mem_cons_of_mem _ h⟩
    · split at h
      · rcases List.mem_cons.mp h with h | h
        · exact .inl (Prod.mk.inj h).1
        · exact .inr ⟨v, h⟩
      · rcases List.mem_cons.mp h with h | h
        · exact .inr ⟨v, by rw [h]; exact List.mem_cons_self⟩
        · rcases ih h with h | ⟨w, h⟩
          · exact .inl h
          · exact .inr ⟨w, List.mem_cons_of_mem _ h⟩

theorem KeysIncrease.insertMember {entries : List (String × Json)} (h : KeysIncrease entries)
    (key : String) (value : Json) : KeysIncrease (Json.insertMember key value entries) := by
  induction entries with
  | nil => exact List.pairwise_singleton ..
  | cons e rest ih =>
    obtain ⟨k, v⟩ := e
    obtain ⟨first, tail⟩ := List.pairwise_cons.mp h
    unfold Json.insertMember
    split
    · next same => subst same; exact List.pairwise_cons.mpr ⟨first, tail⟩
    · next differ =>
      split
      · next less =>
        refine List.pairwise_cons.mpr ⟨fun b hb => ?_, h⟩
        rcases List.mem_cons.mp hb with rfl | hb
        · exact less
        · exact String.lt_trans less (first b hb)
      · next notLess =>
        refine List.pairwise_cons.mpr ⟨fun b hb => ?_, ih tail⟩
        rcases mem_insertMember (k := b.1) (v := b.2) hb with rfl | ⟨w, hw⟩
        · exact Decidable.byContradiction fun hn =>
            differ (String.le_antisymm (String.not_lt.mp hn) (String.not_lt.mp notLess))
        · exact first (b.1, w) hw

structure Params where
  entries : List (String × Json)
  increase : KeysIncrease entries

namespace Params

def empty : Params := ⟨[], List.Pairwise.nil⟩

/-- Sets a parameter; a value it had before gives way. -/
def insert (p : Params) (key : String) (value : Json) : Params :=
  ⟨Json.insertMember key value p.entries, p.increase.insertMember key value⟩

/-- Both sets of parameters; where they differ the second one counts. -/
def union (p q : Params) : Params :=
  q.entries.foldl (fun p e => p.insert e.1 e.2) p

def get? (p : Params) (key : String) : Option Json :=
  (p.entries.find? (·.1 == key)).map (·.2)

def isEmpty (p : Params) : Bool :=
  p.entries.isEmpty

def toJson (p : Params) : Json :=
  .obj p.entries

@[ext] theorem ext {p q : Params} (h : p.entries = q.entries) : p = q := by
  cases p; cases q; cases h; rfl

@[simp] theorem union_empty (p : Params) : p.union empty = p := rfl

end Params

end NetQuery
