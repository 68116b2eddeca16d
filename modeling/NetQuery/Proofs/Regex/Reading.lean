import NetQuery.Glob.Pattern
import NetQuery.Regex.Checker

namespace NetQuery.Regex

def Flags.ofCase (anyCase : Bool) : Flags := { Flags.usual with anyCase }

def State.addAll (s : State) (parts : List Fragment) : State :=
  { s with parts := parts.reverse ++ s.parts }

@[simp] theorem State.addAll_nil (s : State) : s.addAll [] = s := rfl

@[simp] theorem State.addAll_singleton (s : State) (part : Fragment) :
    s.addAll [part] = s.add part := rfl

@[simp] theorem State.flags_addAll (s : State) (parts : List Fragment) :
    (s.addAll parts).flags = s.flags := rfl

theorem State.addAll_addAll (s : State) (parts parts' : List Fragment) :
    (s.addAll parts).addAll parts' = s.addAll (parts ++ parts') := by
  simp [addAll]

variable {anyCase : Bool} {s t : State} {c : Char} {source more rest : List Char}
  {parts : List Fragment} {part : Fragment} {steps least : Nat} {most : Option Nat}

theorem greed_eq (flags : Flags) (h : ∀ c ∈ rest.head?, c ≠ '?') :
    greed flags rest = (!flags.lazy, rest) := by
  unfold greed
  split
  · exact absurd rfl (h '?' rfl)
  · rfl

theorem pointChars_ofCase (anyCase : Bool) : pointChars (.ofCase anyCase) = Glob.lineChars := by
  have hline : CharSet.ofText "a" = .singleton '\n' := by decide
  exact congrArg CharSet.complement hline

namespace Fragment

def whole (parts : List Fragment) : Fragment :=
  .sequence (.ofExpr (.assertion .textStart) :: (parts ++ [.ofExpr (.assertion .textEnd)]))

theorem whole_eq (parts : List Fragment) : whole parts =
    ⟨deepest (.ofExpr (.assertion .textStart) :: (parts ++ [.ofExpr (.assertion .textEnd)])) + 1,
      Glob.wholeText (parts.map (·.expr)), true⟩ := by
  cases parts with
  | nil => rfl
  | cons part parts => simp [whole, sequence, Glob.wholeText, ofExpr]

@[simp] theorem expr_whole (parts : List Fragment) :
    (whole parts).expr = Glob.wholeText (parts.map (·.expr)) := by
  rw [whole_eq]

theorem deepest_le {n : Nat} (h : ∀ part ∈ parts, part.nesting ≤ n) :
    deepest parts ≤ n := by
  suffices hfold : ∀ m ≤ n, (parts.map (·.nesting)).foldl max m ≤ n from hfold 0 (Nat.zero_le n)
  induction parts with
  | nil => exact fun m hm => hm
  | cons part parts ih =>
    obtain ⟨hpart, hparts⟩ := List.forall_mem_cons.mp h
    exact fun m hm => ih hparts _ (Nat.max_le.mpr ⟨hm, hpart⟩)

theorem nesting_whole_le (h : ∀ part ∈ parts, part.nesting < maxNesting) :
    (whole parts).nesting ≤ maxNesting := by
  rw [whole_eq]
  apply Nat.succ_le_of_lt
  apply Nat.lt_succ_of_le
  apply deepest_le
  intro part hpart
  simp only [List.mem_cons, List.mem_append, List.not_mem_nil, or_false] at hpart
  rcases hpart with rfl | hpart | rfl
  · exact Nat.zero_le _
  · exact Nat.le_of_lt_succ (h part hpart)
  · exact Nat.zero_le _

end Fragment

variable [Library]

/-- The pattern of a text where letters may stand for themselves in any case. -/
def readIn (anyCase : Bool) (cs : List Char) : Option Fragment :=
  readFrom { State.start with flags := .ofCase anyCase } (cs.length + 1) cs

theorem readIn_false (cs : List Char) : readIn false cs = read? cs := rfl

/-- Whether a piece of a pattern is read as these parts, whatever has been read and whatever comes,
short of a question mark. -/
structure ReadsAs (anyCase : Bool) (source : List Char) (parts : List Fragment) : Prop where
  begins : ∀ c ∈ source.head?, c ≠ '?'
  reads : ∃ used ≤ source.length, ∀ s : State, s.flags = .ofCase anyCase →
    ∀ rest, (∀ c ∈ rest.head?, c ≠ '?') → ∀ steps,
      readFrom s (used + steps) (source ++ rest) =
        readFrom (s.addAll parts) steps rest

/-- Where blanks are not passed over, the next sign is read. -/
theorem readFrom_of_step? (hflags : s.flags = .ofCase anyCase)
    (hstep : step? s c rest = some (t, more)) :
    readFrom s (steps + 1) (c :: rest) = readFrom t steps more := by
  simp [readFrom, hflags, Flags.skip, Flags.ofCase, Flags.usual, hstep]

/-- A pattern of a whole text is accepted if it builds, as it does not nest too deep. -/
theorem Fragment.fits_whole (h : ∀ part ∈ parts, part.nesting < maxNesting) :
    (whole parts).fits = Library.builds (Glob.wholeText (parts.map (·.expr))) := by
  rw [fits, decide_eq_true (nesting_whole_le h), expr_whole, Bool.true_and]

namespace ReadsAs

theorem nil : ReadsAs anyCase [] [] :=
  ⟨by simp, 0, Nat.le_refl 0, fun s _ rest _ steps => by simp⟩

theorem append {source' : List Char} {parts' : List Fragment} (h : ReadsAs anyCase source parts)
    (h' : ReadsAs anyCase source' parts') :
    ReadsAs anyCase (source ++ source') (parts ++ parts') := by
  obtain ⟨hbegins, used, hused, hreads⟩ := h
  obtain ⟨hbegins', used', hused', hreads'⟩ := h'
  have hhead {x y : List Char} (hx : ∀ c ∈ x.head?, c ≠ '?') (hy : ∀ c ∈ y.head?, c ≠ '?') :
      ∀ c ∈ (x ++ y).head?, c ≠ '?' := by
    cases x with
    | nil => exact hy
    | cons => exact hx
  refine ⟨hhead hbegins hbegins', used + used', ?_, ?_⟩
  · rw [List.length_append]
    omega
  · intro s hflags rest hrest steps
    rw [List.append_assoc, Nat.add_assoc, hreads s hflags _ (hhead hbegins' hrest),
      hreads' (s.addAll parts) hflags rest hrest, State.addAll_addAll]

/-- A sign that adds a part, with what belongs to it. -/
theorem of_step? (hc : c ≠ '?')
    (h : ∀ s : State, s.flags = .ofCase anyCase → ∀ rest, (∀ c ∈ rest.head?, c ≠ '?') →
      step? s c (more ++ rest) = some (s.add part, rest)) :
    ReadsAs anyCase (c :: more) [part] := by
  refine ⟨by simpa using hc, 1, Nat.le_add_left 1 _, ?_⟩
  intro s hflags rest hrest steps
  rw [Nat.add_comm, List.cons_append, readFrom_of_step? hflags (h s hflags rest hrest)]
  rfl

theorem repeated (hpart : part.repeatable = true)
    (h : ∀ s : State, s.flags = .ofCase anyCase → ∀ rest, (∀ c ∈ rest.head?, c ≠ '?') →
      step? s c (more ++ rest) = (s.repeatLast? least most true).map fun s => (s, rest))
    (hc : c ≠ '?') (hsource : ReadsAs anyCase source [part]) :
    ReadsAs anyCase (source ++ c :: more) [part.repeated least most true] := by
  obtain ⟨hbegins, used, hused, hreads⟩ := hsource
  refine ⟨?_, used + 1, ?_, ?_⟩
  · cases source with
    | nil => simpa using hc
    | cons => exact hbegins
  · rw [List.length_append, List.length_cons]
    omega
  · intro s hflags rest hrest steps
    have hstep : step? (s.add part) c (more ++ rest) =
        some (s.add (part.repeated least most true), rest) := by
      rw [h (s.add part) hflags rest hrest]
      simp [State.repeatLast?, State.add, hpart]
    rw [List.append_assoc, Nat.add_assoc, hreads s hflags _ (by simpa using hc), Nat.add_comm 1]
    exact readFrom_of_step? hflags hstep

theorem star (hpart : part.repeatable = true) (hsource : ReadsAs anyCase source [part]) :
    ReadsAs anyCase (source ++ ['*']) [part.repeated 0 none true] := by
  refine hsource.repeated hpart ?_ (by decide)
  intro s hflags rest hrest
  have hstep : step? s '*' rest = (s.repeatLast? 0 none (greed s.flags rest).1).map
      fun t => (t, (greed s.flags rest).2) := rfl
  rw [List.nil_append, hstep, greed_eq _ hrest, hflags]
  rfl

theorem caret : ReadsAs anyCase ['^'] [.ofExpr (.assertion .textStart)] := by
  apply of_step? (by decide)
  intro s hflags rest _
  have hstep : step? s '^' rest =
      some (s.addAtom (.assertion (caretAssertion s.flags)), rest) := rfl
  rw [List.nil_append, hstep, hflags]
  rfl

theorem dollar : ReadsAs anyCase ['$'] [.ofExpr (.assertion .textEnd)] := by
  apply of_step? (by decide)
  intro s hflags rest _
  have hstep : step? s '$' rest =
      some (s.addAtom (.assertion (dollarAssertion s.flags)), rest) := rfl
  rw [List.nil_append, hstep, hflags]
  rfl

theorem point : ReadsAs anyCase ['.'] [.ofExpr (.ofSet false Glob.lineChars)] := by
  apply of_step? (by decide)
  intro s hflags rest _
  have hstep : step? s '.' rest =
      if s.flags.unicode then some (s.addAtom (.set (pointChars s.flags)), rest) else none := rfl
  rw [List.nil_append, hstep, State.addAtom, Atom.expr, hflags, pointChars_ofCase]
  rfl

theorem digit : ReadsAs anyCase ['\\', 'd'] [.ofExpr (.ofSet false digitChars)] := by
  apply of_step? (by decide)
  intro s hflags rest _
  have hescape : escape? (.ofCase anyCase) ('d' :: rest) = some (.set digitChars, rest) := rfl
  have hstep : step? s '\\' ('d' :: rest) =
      (escape? s.flags ('d' :: rest)).map fun read => (s.addAtom read.1, read.2) := rfl
  rw [List.singleton_append, hstep, hflags, hescape, Option.map_some, State.addAtom, hflags]
  rfl

theorem oneToThree (hpart : part.repeatable = true) (hsource : ReadsAs anyCase source [part]) :
    ReadsAs anyCase (source ++ ['\x7b', '1', ',', '3', '\x7d'])
      [part.repeated 1 (some 3) true] := by
  refine hsource.repeated hpart ?_ (by decide)
  intro s hflags rest hrest
  have hcounts : counts? (.ofCase anyCase) ('1' :: ',' :: '3' :: '\x7d' :: rest) =
      some (1, some 3, rest) := rfl
  have hgreed : greed (.ofCase anyCase) ((Flags.ofCase anyCase).skip rest) = (true, rest) :=
    greed_eq (.ofCase anyCase) hrest
  have hstep : step? s '\x7b' ('1' :: ',' :: '3' :: '\x7d' :: rest) =
      (counts? s.flags ('1' :: ',' :: '3' :: '\x7d' :: rest)).bind fun read =>
        (s.repeatLast? read.1 read.2.1 (greed s.flags (s.flags.skip read.2.2)).1).map
          fun t => (t, (greed s.flags (s.flags.skip read.2.2)).2) := rfl
  simp only [List.cons_append, List.nil_append, hstep, hflags, hcounts, Option.bind_some, hgreed]

end ReadsAs

theorem ReadsAs.intercalate {α : Type} {items : List α} {write : α → List Char}
    {read : α → List Fragment} (hseparator : ReadsAs anyCase source parts)
    (h : ∀ a ∈ items, ReadsAs anyCase (write a) (read a)) :
    ReadsAs anyCase (source.intercalate (items.map write))
      (parts.intercalate (items.map read)) := by
  induction items with
  | nil => exact .nil
  | cons a items ih =>
    obtain ⟨ha, hitems⟩ := List.forall_mem_cons.mp h
    cases items with
    | nil => simpa using ha
    | cons b items =>
      simp only [List.map_cons, List.intercalate_cons_cons] at ih ⊢
      exact (ha.append hseparator).append (ih hitems)

/-- Signs that mean something on their own within a set. -/
def isSetSign (c : Char) : Bool :=
  ['[', ']', '&', '-', '~'].contains c

/-- A member of a set, or a range, is put to those before it. -/
theorem setFrom_of_memberOrRange? {s : OpenSet} {outer : List OpenSet} {chars : CharSet}
    (hc : isSetSign c = false)
    (hmember : memberOrRange? (.ofCase anyCase) (c :: rest) = some (chars, more)) :
    setFrom (.ofCase anyCase) outer s (steps + 1) (c :: rest) =
      setFrom (.ofCase anyCase) outer (s.add 0 chars) steps more := by
  have hskip : (Flags.ofCase anyCase).skip (c :: rest) = c :: rest := rfl
  rw [setFrom, hskip]
  split
  case h_7 => rw [hmember]
  case h_1 hnil => cases hnil
  all_goals
    next heq =>
    cases heq
    cases hc

/-- A set without operators has the characters of its members. -/
theorem setFrom_close {s : OpenSet} (hleft : s.left = none) (hnegated : s.negated = false) :
    setFrom (.ofCase false) [] s (steps + 1) (']' :: rest) =
      some (⟨s.operandNesting + 1, .ofSet false s.chars, true⟩, rest) := by
  simp [setFrom, Flags.skip, OpenSet.close?, Flags.ofCase, Flags.usual, OpenSet.allNesting,
    OpenSet.allChars, hleft, hnegated, Flags.foldSigned, Flags.fold]

/-- A pattern that is read piece by piece consists of the parts of the pieces. -/
theorem ReadsAs.readIn_eq (h : ReadsAs anyCase source parts) :
    readIn anyCase source = some (.sequence parts) := by
  obtain ⟨-, used, hused, hreads⟩ := h
  let s : State := { State.start with flags := .ofCase anyCase }
  have hread := hreads s rfl [] (by simp) (source.length - used + 1)
  rw [List.append_nil] at hread
  have hsteps : source.length + 1 = used + (source.length - used + 1) := by omega
  have hend : (s.addAll parts).body = .sequence parts := by
    simp [State.body, State.addAll, State.start, Fragment.choice, s]
  rw [readIn, hsteps, hread, ← hend]
  rfl

/-- A piece between a caret and a dollar sign is a pattern of a whole text. -/
theorem ReadsAs.readIn_whole (h : ReadsAs anyCase source parts) :
    readIn anyCase ('^' :: (source ++ ['$'])) = some (.whole parts) :=
  (ReadsAs.caret.append (h.append .dollar)).readIn_eq

end NetQuery.Regex
