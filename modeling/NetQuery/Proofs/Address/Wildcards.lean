import Mathlib.Data.List.Forall2
import NetQuery.Library
import NetQuery.Proofs.Address.InFull
import NetQuery.Proofs.Glob.Signs
import NetQuery.Proofs.Regex.Wildcards

namespace NetQuery.AddressPattern

open Regex Address

variable {c : Char} {part cs octet : List Char} {parts : List (List Char)}
  {before text after : List Char}

theorem contains_digitChars (c : Char) : digitChars.contains c = Text.isDecimalDigit c := by
  rw [digitChars, CharSet.contains_ofRanges, Text.inRanges, Text.isDecimalDigit, List.any_map]
  congr 1
  funext z
  apply Bool.eq_iff_iff.mpr
  simp only [Function.comp_apply, Bool.and_eq_true, decide_eq_true_eq]
  omega

theorem contains_addressChars (c : Char) : addressChars.contains c = addressStyle.allows c := by
  have hranges : addressChars = ⟨[(0x2e, 0x2e), (0x30, 0x3a), (0x41, 0x46), (0x61, 0x66)]⟩ := by
    decide
  have hpoint : c = '.' ↔ c.toNat = 0x2e := Char.toNat_inj.symm
  have hcolon : c = ':' ↔ c.toNat = 0x3a := Char.toNat_inj.symm
  apply Bool.eq_iff_iff.mpr
  rw [hranges, allows_iff, isHexDigit_iff, hpoint, hcolon]
  simp only [CharSet.contains, CharSet.hasCode, List.any_cons, List.any_nil, Bool.or_false,
    Bool.or_eq_true, Bool.and_eq_true, decide_eq_true_eq]
  omega

theorem contains_singleton_eq (d c : Char) : (CharSet.singleton d).contains c = (d == c) := by
  apply Bool.eq_iff_iff.mpr
  rw [CharSet.contains_singleton_iff, beq_iff_eq]
  exact eq_comm

theorem writes_octet : Glob.Writes digitChars false octetStyle where
  allows := contains_digitChars
  inhabited := ⟨'0', by rw [contains_digitChars]; rfl⟩
  same := contains_singleton_eq
  refl := beq_self_eq_true

theorem writes_address : Glob.Writes addressChars false addressStyle where
  allows := contains_addressChars
  inhabited := ⟨'0', by rw [contains_addressChars]; rfl⟩
  same := contains_singleton_eq
  refl := beq_self_eq_true

/-- The pattern of a part matches the octets that the part does. -/
theorem matches_octetExpr :
    (octetExpr part).Matches before text after ↔ octetMatches part text = true := by
  unfold octetExpr octetMatches
  split
  · rw [Expr.repeated_ofSet (by decide) (by decide),
      Expr.matches_times_chars (e := .ofSet false digitChars) fun _ _ _ => writes_octet.matches_one]
    simp only [Option.mem_some_iff, forall_eq', Bool.and_eq_true, decide_eq_true_eq,
      List.all_eq_true]
    exact and_comm
  · rw [Expr.matches_inTurn, writes_octet.matches_signs]
    exact Glob.covers_iff_stands.symm

/-- Patterns of parts with points between them match octets with points between them. -/
theorem matches_octetExprs :
    (Expr.sequence ((parts.map octetExpr).intersperse (.char '.'))).Matches before text after ↔
      ∃ octets, List.Forall₂ (fun part octet => octetMatches part octet = true) parts octets ∧
        text = ['.'].intercalate octets := by
  induction parts generalizing before text with
  | nil => simp [Expr.matches_sequence_nil]
  | cons part parts ih =>
    cases parts with
    | nil =>
      rw [List.map_singleton, List.intersperse_singleton, Expr.matches_sequence_singleton,
        matches_octetExpr]
      simp [List.forall₂_cons_left_iff]
    | cons next parts =>
      rw [List.map_cons, List.map_cons, List.intersperse_cons_cons, Expr.matches_sequence_cons]
      simp only [Expr.char, Expr.matches_sequence_literal_cons, matches_octetExpr]
      rw [List.map_cons] at ih
      constructor
      · rintro ⟨octet, _, rfl, hoctet, v, rfl, hrest⟩
        obtain ⟨octets, hoctets, rfl⟩ := ih.mp hrest
        obtain ⟨second, octets, hsecond, hmore, rfl⟩ := List.forall₂_cons_left_iff.mp hoctets
        exact ⟨octet :: second :: octets, .cons hoctet (.cons hsecond hmore), by simp⟩
      · rintro ⟨_, hoctets, rfl⟩
        obtain ⟨octet, octets, hoctet, hrest, rfl⟩ := List.forall₂_cons_left_iff.mp hoctets
        obtain ⟨second, more, hsecond, hmore, rfl⟩ := List.forall₂_cons_left_iff.mp hrest
        exact ⟨octet, _, by rw [List.intercalate_cons_cons, List.append_assoc], hoctet, _, rfl,
          ih.mpr ⟨second :: more, hrest, rfl⟩⟩

/-- What a part without points matches has no point. -/
theorem point_notMem_of_octetMatches (hpart : '.' ∉ part) (h : octetMatches part octet = true) :
    '.' ∉ octet := by
  intro hmem
  unfold octetMatches at h
  split at h
  · simp only [Bool.and_eq_true, List.all_eq_true] at h
    have hdigit := h.2 '.' hmem
    revert hdigit
    decide
  · rcases (Glob.covers_iff_stands.mp h).mem hmem with hdigit | ⟨d, hd, hsame⟩
    · revert hdigit
      decide
    · obtain rfl : d = '.' := beq_iff_eq.mp hsame
      exact hpart (Glob.mem_of_char_mem hd)

theorem point_notMem_of_forall₂ {octets : List (List Char)} (hparts : ∀ part ∈ parts, '.' ∉ part)
    (h : List.Forall₂ (fun part octet => octetMatches part octet = true) parts octets) :
    ∀ octet ∈ octets, '.' ∉ octet := by
  induction h with
  | nil => simp
  | cons hoctet _ ih =>
    obtain ⟨hpart, hparts⟩ := List.forall_mem_cons.mp hparts
    exact List.forall_mem_cons.mpr ⟨point_notMem_of_octetMatches hpart hoctet, ih hparts⟩

/-- The pattern of a text with wildcards is found in just the addresses that the text matches. -/
theorem foundIn_wildcardExpr {pattern : List Char} :
    (wildcardExpr pattern).FoundIn cs ↔ wildcardMatches pattern cs = true := by
  unfold wildcardExpr wildcardMatches
  dsimp only
  split
  · next hfour =>
    rw [Glob.foundIn_wholeText, matches_octetExprs]
    simp only [Bool.and_eq_true, beq_iff_eq, List.all_eq_true, Prod.forall]
    constructor
    · rintro ⟨octets, hoctets, rfl⟩
      obtain ⟨hlength, hall⟩ := List.forall₂_iff_zip.mp hoctets
      have hfilled : octets ≠ [] := by
        rintro rfl
        rw [hfour] at hlength
        cases hlength
      have hpoint := point_notMem_of_forall₂ (fun _ => point_notMem_of_mem_pointParts) hoctets
      have hsplit : pointParts (['.'].intercalate octets) = octets :=
        List.splitOn_intercalate '.' hpoint hfilled
      rw [hsplit]
      exact ⟨hlength.symm.trans hfour, fun part octet => hall⟩
    · rintro ⟨hlength, hall⟩
      refine ⟨pointParts cs, ?_, (intercalate_pointParts cs).symm⟩
      exact List.forall₂_iff_zip.mpr ⟨hfour.trans hlength.symm, fun hmem => hall _ _ hmem⟩
  · rw [Glob.foundIn_wholeText, writes_address.matches_signs]
    exact Glob.covers_iff_stands.symm

/-- What a part of a text becomes: a star alone takes up to three digits. -/
def writtenOctet (part : List Char) : List Char :=
  if part == ['*'] then ['\\', 'd', '\x7b', '1', ',', '3', '\x7d']
  else Glob.written ['\\', 'd', '*'] ['\\', 'd'] part

def writtenSet : List Char := '[' :: "0-9a-fA-F.:]".toList

def writtenPattern (cs : List Char) : List Char :=
  let parts := pointParts cs
  let body := if parts.length = 4 then ['\\', '.'].intercalate (parts.map writtenOctet)
    else Glob.written (writtenSet ++ ['*']) writtenSet cs
  '^' :: (body ++ ['$'])

def octetParts (part : List Char) : List Fragment :=
  let digit : Fragment := .ofExpr (.ofSet false digitChars)
  if part == ['*'] then [digit.repeated 1 (some 3) true]
  else (Glob.ofText part).map (Glob.signPart false digit)

def pointPart : Fragment := .ofExpr (.char '.')

theorem readsAs_writtenOctet [Regex.Library] (part : List Char) :
    ReadsAs false (writtenOctet part) (octetParts part) := by
  unfold writtenOctet octetParts
  split
  · exact ReadsAs.digit.oneToThree rfl
  · exact Glob.readsAs_written .digit (ReadsAs.digit.star rfl) part

theorem readsAs_point [Regex.Library] : ReadsAs false ['\\', '.'] [pointPart] :=
  Glob.readsAs_escaped '.'

theorem nesting_octetParts : ∀ f ∈ octetParts part, f.nesting ≤ 1 := by
  unfold octetParts
  dsimp only
  split
  · intro f hf
    obtain rfl := List.mem_singleton.mp hf
    exact Nat.le_refl 1
  · intro f hf
    obtain ⟨sign, -, rfl⟩ := List.mem_map.mp hf
    exact Glob.nesting_signPart_le sign

theorem plain_octetParts (part : List Char) : Expr.ArePlain ((octetParts part).map (·.expr)) ∧
    Expr.inTurn ((octetParts part).map (·.expr)) = octetExpr part := by
  have hplain (e : Expr) (he : e.parts = [e]) : Expr.ArePlain [e] :=
    List.forall_mem_singleton.mpr he
  unfold octetParts octetExpr
  dsimp only
  split
  · have hrepeated : (Expr.repeated 1 (some 3) true (.ofSet false digitChars)).parts =
        [.repeated 1 (some 3) true (.ofSet false digitChars)] :=
      Expr.parts_repeated_ofSet (by decide) (by decide)
    exact ⟨hplain _ hrepeated, Expr.inTurn_singleton hrepeated⟩
  · have hdigit : (Fragment.ofExpr (.ofSet false digitChars)).expr = .ofSet false digitChars := rfl
    rw [Glob.map_expr_signPart hdigit]
    refine ⟨?_, rfl⟩
    intro e he
    obtain ⟨sign, -, rfl⟩ := List.mem_map.mp he
    exact Glob.parts_signExpr sign

/-- Octets that are put in turn with points between them are read sign by sign. -/
theorem wholeText_octets : Glob.wholeText ((parts.map octetExpr).intersperse (.char '.')) =
    Glob.wholeText (([pointPart].intercalate (parts.map octetParts)).map (·.expr)) := by
  apply Glob.wholeText_congr
  intro es
  induction parts generalizing es with
  | nil => rfl
  | cons part parts ih =>
    obtain ⟨hplain, hturn⟩ := plain_octetParts part
    cases parts with
    | nil => simp [← hturn, hplain.foldr_parts_inTurn]
    | cons next parts =>
      simp only [List.map_cons, List.intersperse_cons_cons, List.intercalate_cons_cons,
        List.flatMap_cons, List.flatMap_append, List.map_append, List.foldr_append] at ih ⊢
      rw [ih, ← hturn, hplain.foldr_parts_inTurn]
      rfl

/-- What the set is read as; its members nest one deep in it. -/
def setPart : Fragment := ⟨2, .ofSet false addressChars, true⟩

section

variable [Regex.Library]

theorem set?_writtenSet (rest : List Char) :
    set? (.ofCase false) ("0-9a-fA-F.:]".toList ++ rest) = some (setPart, rest) := by
  -- one step for each of the five members and one for the bracket
  have hset : set? (.ofCase false) ("0-9a-fA-F.:]".toList ++ rest) =
      setFrom (.ofCase false) [] (.start false) (rest.length + 7 + 1 + 1 + 1 + 1 + 1 + 1)
        ('0' :: '-' :: '9' :: 'a' :: '-' :: 'f' :: 'A' :: '-' :: 'F' :: '.' :: ':' :: ']' ::
          rest) :=
    rfl
  have hpoint : memberOrRange? (.ofCase false) ('.' :: ':' :: ']' :: rest) =
      some (.singleton '.', ':' :: ']' :: rest) := rfl
  have hcolon : memberOrRange? (.ofCase false) (':' :: ']' :: rest) =
      some (.singleton ':', ']' :: rest) := rfl
  have hchars : ((((CharSet.empty.union (.between '0' '9')).union (.between 'a' 'f')).union
      (.between 'A' 'F')).union (.singleton '.')).union (.singleton ':') = addressChars := by
    decide
  rw [hset, setFrom_of_memberOrRange? rfl rfl, setFrom_of_memberOrRange? rfl rfl,
    setFrom_of_memberOrRange? rfl rfl, setFrom_of_memberOrRange? rfl hpoint,
    setFrom_of_memberOrRange? rfl hcolon, setFrom_close rfl rfl, setPart, ← hchars]
  rfl

theorem readsAs_writtenSet : ReadsAs false writtenSet [setPart] := by
  apply ReadsAs.of_step? (by decide)
  intro s hflags rest _
  simp only [step?, hflags, set?_writtenSet, Option.map_some]

/-- The pattern of a text with wildcards is well formed, and it is read as the expression of the
text. -/
theorem read?_writtenPattern (cs : List Char) : ∃ f, read? (writtenPattern cs) = some f ∧
    f.expr = wildcardExpr cs ∧ f.fits = Library.builds (wildcardExpr cs) := by
  suffices hbody : ∃ source parts, writtenPattern cs = '^' :: (source ++ ['$']) ∧
      ReadsAs false source parts ∧ (∀ part ∈ parts, part.nesting < Fragment.maxNesting) ∧
      Glob.wholeText (parts.map (·.expr)) = wildcardExpr cs by
    obtain ⟨source, parts, hwritten, hreads, hnesting, hexpr⟩ := hbody
    have hread := hreads.readIn_whole
    rw [readIn_false, ← hwritten] at hread
    exact ⟨_, hread, (Fragment.expr_whole parts).trans hexpr,
      (Fragment.fits_whole hnesting).trans (congrArg _ hexpr)⟩
  unfold writtenPattern wildcardExpr
  dsimp only
  split
  · refine ⟨_, _, rfl, readsAs_point.intercalate fun part _ => readsAs_writtenOctet part, ?_,
      wholeText_octets.symm⟩
    intro part hpart
    rcases mem_intercalate hpart with rfl | ⟨octet, hoctet, hmem⟩
    · decide
    · obtain ⟨source, -, rfl⟩ := List.mem_map.mp hoctet
      exact Nat.lt_of_le_of_lt (nesting_octetParts part hmem) (by decide)
  · have hset : setPart.expr = .ofSet false addressChars := rfl
    refine ⟨_, _, rfl,
      Glob.readsAs_written readsAs_writtenSet (readsAs_writtenSet.star rfl) cs, ?_, ?_⟩
    · intro part hpart
      obtain ⟨sign, -, rfl⟩ := List.mem_map.mp hpart
      exact Nat.lt_of_le_of_lt (Glob.nesting_signPart_le sign) (by decide)
    · rw [Glob.map_expr_signPart hset]

end

def digitStyle : GlobStyle := ⟨Char.isDigit, (· == ·)⟩

def anyStyle : GlobStyle := ⟨fun _ => true, (· == ·)⟩

/-- Within an octet the limit of three digits and the digits of other scripts make no difference. -/
theorem octetMatches_iff_stands (hoctet : IsOctet octet) :
    octetMatches part octet = true ↔ Glob.Stands digitStyle (Glob.ofText part) octet := by
  have hdigits : ∀ c ∈ octet, Text.isDecimalDigit c = true := fun c hc =>
    Text.isDecimalDigit_of_isDigit (hoctet.digits c hc)
  unfold octetMatches
  split
  · next hstar =>
    rw [beq_iff_eq.mp hstar]
    have hlength : 1 ≤ octet.length := List.length_pos_iff.mpr hoctet.ne_nil
    have hstands : Glob.Stands digitStyle (Glob.ofText ['*']) octet :=
      Glob.stands_run_iff.mpr ⟨octet, [], (List.append_nil octet).symm, hoctet.digits, .nil⟩
    simp [hlength, hoctet.length_le, List.all_eq_true.mpr hdigits, hstands]
  · rw [Glob.covers_iff_stands]
    constructor
    · exact fun h => h.congr (fun c hc _ => hoctet.digits c hc) fun _ _ _ => id
    · exact fun h => h.congr (fun c hc _ => hdigits c hc) fun _ _ _ => id

/-- What a text with wildcards means for an address: part by part if it has four of them. -/
def StandsFor (pattern address : List Char) : Prop :=
  if (pointParts pattern).length = 4 then
    List.Forall₂ (fun part octet => Glob.Stands digitStyle (Glob.ofText part) octet)
      (pointParts pattern) (pointParts address)
  else Glob.Stands anyStyle (Glob.ofText pattern) address

theorem wildcardMatches_iff_standsFor {pattern address : List Char} {n : Nat}
    (haddress : quad? address = some n) :
    wildcardMatches pattern address = true ↔ StandsFor pattern address := by
  obtain ⟨hlength, hoctets, -⟩ := quad?_eq_some_iff.mp haddress
  unfold wildcardMatches StandsFor
  dsimp only
  split
  · next hfour =>
    simp only [List.forall₂_iff_zip, hfour, hlength, beq_self_eq_true, Bool.true_and, true_and,
      List.all_eq_true, Prod.forall]
    refine forall_congr' fun part => forall_congr' fun octet => forall_congr' fun hmem => ?_
    exact octetMatches_iff_stands (hoctets octet (List.of_mem_zip hmem).2)
  · rw [Glob.covers_iff_stands]
    constructor
    · exact fun h => h.congr (fun _ _ _ => rfl) fun _ _ _ => id
    · exact fun h => h.congr (fun c hc _ => allows_of_quad? haddress c hc) fun _ _ _ => id

/-- Blanks around a text are no wildcards. -/
theorem hasWildcard_trimBlanks (cs : List Char) :
    hasWildcard (Text.trimBlanks cs) = hasWildcard cs := by
  have hdrop (cs : List Char) : hasWildcard (Text.dropBlanks cs) = hasWildcard cs := by
    induction cs with
    | nil => rfl
    | cons c cs ih =>
      rw [Text.dropBlanks, List.dropWhile_cons]
      split
      · next hblank =>
        have hplain : (c == '*' || c == '?') = false := by
          rw [Bool.or_eq_false_iff, beq_eq_false_iff_ne, beq_eq_false_iff_ne]
          constructor
          · rintro rfl
            revert hblank
            decide
          · rintro rfl
            revert hblank
            decide
        have hcons : hasWildcard (c :: cs) = hasWildcard cs := by
          rw [hasWildcard, List.any_cons, hplain, Bool.false_or]
          rfl
        rw [hcons]
        exact ih
      · rfl
  have hreverse (cs : List Char) : hasWildcard cs.reverse = hasWildcard cs := List.any_reverse
  rw [Text.trimBlanks, hreverse, hdrop, hreverse, hdrop]

/-- A text with wildcards is a pattern if what it is written as is one, and it matches just the
addresses of four octets that it stands for, which are those that its pattern is found in. -/
theorem matches_wildcards_iff [Regex.Library] (pattern : String)
    (hwildcard : hasWildcard pattern.toList = true) :
    ∃ f, read? (writtenPattern (Text.trimBlanks pattern.toList)) = some f ∧
      f.fits = !(ofText pattern).isInvalid ∧
      (f.fits = true → ∀ address : String, isQuad address = true →
        ((ofText pattern).matchesText address = true ↔
          StandsFor (Text.trimBlanks pattern.toList) address.toList) ∧
        ((ofText pattern).matchesText address = true ↔ f.expr.FoundIn address.toList)) := by
  rw [← hasWildcard_trimBlanks] at hwildcard
  obtain ⟨f, hread, hexpr, hfits⟩ := read?_writtenPattern (Text.trimBlanks pattern.toList)
  refine ⟨f, hread, ?_, ?_⟩
  · rw [hfits]
    cases hfit : Library.builds (wildcardExpr (Text.trimBlanks pattern.toList)) <;>
      simp [ofText, hwildcard, hfit, isInvalid]
  · intro hfit address haddress
    rw [hfits] at hfit
    obtain ⟨n, hquad⟩ := Option.isSome_iff_exists.mp haddress
    have htrim : Text.trimBlanks address.toList = address.toList :=
      Text.trimBlanks_of_not_blank fun c hc => not_blank_of_allows (allows_of_quad? hquad c hc)
    have hmatches : (ofText pattern).matchesText address =
        wildcardMatches (Text.trimBlanks pattern.toList) address.toList := by
      simp only [ofText, hwildcard, hfit, if_true, matchesText, htrim]
    rw [hmatches, hexpr, foundIn_wildcardExpr]
    exact ⟨wildcardMatches_iff_standsFor hquad, Iff.rfl⟩

/-- Octet by octet, between blanks: the question mark takes the last digit. -/
theorem matches_wildcards_iff_of_octets :
    hasWildcard " 10.0.0.1? ".toList = true ∧ (ofText " 10.0.0.1? ").isInvalid = false ∧
      isQuad "10.0.0.15" = true ∧ StandsFor "10.0.0.1?".toList "10.0.0.15".toList := by
  have hpattern : ofText " 10.0.0.1? " = wildcard "10.0.0.1?".toList := by decide +kernel
  have hwildcard : hasWildcard " 10.0.0.1? ".toList = true := by decide
  have haddress : isQuad "10.0.0.15" = true := by decide
  have hmatches : (wildcard "10.0.0.1?".toList).matchesText "10.0.0.15" = true := by
    decide
  obtain ⟨f, -, hfits, hall⟩ := matches_wildcards_iff " 10.0.0.1? " hwildcard
  rw [hpattern] at hfits hall
  obtain ⟨hstands, -⟩ := hall hfits "10.0.0.15" haddress
  exact ⟨hwildcard, by rw [hpattern]; rfl, haddress, hstands.mp hmatches⟩

end NetQuery.AddressPattern
