/-!
Searching and splitting of character lists: a fixed lead, the first place where something is
found, the pieces around a separator, replacement from left to right, tables of code points and
digits in base sixteen.
-/
namespace FluentQuery.Text

def afterLead : List Char → List Char → Option (List Char)
  | [], cs => some cs
  | _ :: _, [] => none
  | l :: lead, c :: cs => if l = c then afterLead lead cs else none

theorem afterLead_eq_some_iff {lead cs rest : List Char} :
    afterLead lead cs = some rest ↔ cs = lead ++ rest := by
  induction lead generalizing cs with
  | nil => simp [afterLead]
  | cons l lead ih =>
    cases cs with
    | nil => simp [afterLead]
    | cons c cs =>
      by_cases h : l = c
      · simp [afterLead, h, ih]
      · simp [afterLead, h, Ne.symm h]

@[simp] theorem afterLead_append (lead rest : List Char) :
    afterLead lead (lead ++ rest) = some rest := afterLead_eq_some_iff.2 rfl

theorem isSome_afterLead_iff {lead cs : List Char} :
    (afterLead lead cs).isSome = true ↔ lead <+: cs := by
  constructor
  · intro h
    obtain ⟨rest, hrest⟩ := Option.isSome_iff_exists.1 h
    exact ⟨rest, (afterLead_eq_some_iff.1 hrest).symm⟩
  · rintro ⟨rest, rfl⟩
    rw [afterLead_append]
    rfl

/-- The first answer among the suffixes of the text, the longest suffix first. -/
def firstAmong {α : Type} (find : List Char → Option α) : List Char → Option α
  | [] => find []
  | c :: cs => match find (c :: cs) with
    | some a => some a
    | none => firstAmong find cs

def splitFirst (separator : List Char) : List Char → Option (List Char × List Char)
  | [] => (afterLead separator []).map ([], ·)
  | c :: cs => match afterLead separator (c :: cs) with
    | some rest => some ([], rest)
    | none => (splitFirst separator cs).map fun (before, after) => (c :: before, after)

def splitLast (separator : Char) : List Char → Option (List Char × List Char)
  | [] => none
  | c :: cs => match splitLast separator cs with
    | some (before, after) => some (c :: before, after)
    | none => if c = separator then some ([], cs) else none

theorem splitLast_eq_none_iff {separator : Char} {cs : List Char} :
    splitLast separator cs = none ↔ separator ∉ cs := by
  induction cs with
  | nil => simp [splitLast]
  | cons c cs ih =>
    rw [splitLast]
    cases hs : splitLast separator cs with
    | some parts =>
      have hmem : separator ∈ cs := Decidable.byContradiction fun hm => by simp [ih.2 hm] at hs
      simp [hmem]
    | none =>
      by_cases hc : c = separator
      · simp [hc]
      · simp [hc, Ne.symm hc, ih.1 hs]

theorem splitLast_eq_some_iff {separator : Char} {cs before after : List Char} :
    splitLast separator cs = some (before, after) ↔
      separator ∉ after ∧ cs = before ++ separator :: after := by
  constructor
  · intro h
    induction cs generalizing before with
    | nil => cases h
    | cons c cs ih =>
      rw [splitLast] at h
      split at h
      · next before' after' hs =>
        cases h
        obtain ⟨hafter, hcs⟩ := ih hs
        exact ⟨hafter, by rw [List.cons_append, ← hcs]⟩
      · next hs =>
        split at h
        · next hc =>
          cases h
          exact ⟨splitLast_eq_none_iff.1 hs, by rw [hc, List.nil_append]⟩
        · cases h
  · rintro ⟨hafter, rfl⟩
    induction before with
    | nil => simp [splitLast, splitLast_eq_none_iff.2 hafter]
    | cons c before ih => rw [List.cons_append, splitLast, ih]

/-- The pieces between the separators; there is one more of them than there are separators. -/
def splitAll (separator : Char) : List Char → List (List Char)
  | [] => [[]]
  | c :: cs =>
    if c = separator then [] :: splitAll separator cs
    else match splitAll separator cs with
      | piece :: pieces => (c :: piece) :: pieces
      | [] => [[c]]

theorem splitAll_ne_nil (separator : Char) (cs : List Char) : splitAll separator cs ≠ [] := by
  cases cs with
  | nil => exact List.cons_ne_nil _ _
  | cons c cs =>
    rw [splitAll]
    split
    · exact List.cons_ne_nil _ _
    · split <;> exact List.cons_ne_nil _ _

theorem splitAll_append_cons (separator : Char) (first second : List Char) :
    splitAll separator (first ++ separator :: second) =
      splitAll separator first ++ splitAll separator second := by
  induction first with
  | nil => simp [splitAll]
  | cons c first ih =>
    obtain ⟨piece, pieces, hpieces⟩ :=
      List.exists_cons_of_ne_nil (splitAll_ne_nil separator first)
    by_cases hc : c = separator
    · simp [splitAll, hc, ih]
    · simp [splitAll, hc, ih, hpieces]

theorem splitAll_of_not_mem {separator : Char} {cs : List Char} (h : separator ∉ cs) :
    splitAll separator cs = [cs] := by
  induction cs with
  | nil => rfl
  | cons c cs ih =>
    obtain ⟨hc, hcs⟩ := not_or.1 (mt List.mem_cons.2 h)
    simp [splitAll, Ne.symm hc, ih hcs]

theorem not_mem_of_mem_splitAll {separator : Char} {piece cs : List Char}
    (h : piece ∈ splitAll separator cs) : separator ∉ piece := by
  induction cs generalizing piece with
  | nil =>
    obtain rfl := List.mem_singleton.1 h
    exact List.not_mem_nil
  | cons c cs ih =>
    obtain ⟨first, pieces, hpieces⟩ :=
      List.exists_cons_of_ne_nil (splitAll_ne_nil separator cs)
    rw [hpieces] at ih
    by_cases hc : c = separator
    · rw [splitAll, if_pos hc, hpieces] at h
      rcases List.mem_cons.1 h with rfl | hrest
      · exact List.not_mem_nil
      · exact ih hrest
    · rw [splitAll, if_neg hc, hpieces] at h
      rcases List.mem_cons.1 h with rfl | hrest
      · simpa [Ne.symm hc] using ih List.mem_cons_self
      · exact ih (List.mem_cons_of_mem _ hrest)

/-- Pieces without the separator are found again. -/
theorem splitAll_intercalate {separator : Char} {pieces : List (List Char)} (hne : pieces ≠ [])
    (h : ∀ piece ∈ pieces, separator ∉ piece) :
    splitAll separator ([separator].intercalate pieces) = pieces := by
  induction pieces with
  | nil => exact absurd rfl hne
  | cons piece pieces ih =>
    obtain ⟨hpiece, hpieces⟩ := List.forall_mem_cons.1 h
    cases pieces with
    | nil => rw [List.intercalate_singleton, splitAll_of_not_mem hpiece]
    | cons next pieces =>
      rw [List.intercalate_cons_cons, List.append_assoc, List.singleton_append,
        splitAll_append_cons, splitAll_of_not_mem hpiece, ih (List.cons_ne_nil _ _) hpieces,
        List.singleton_append]

/-- The pieces make up the text again. -/
theorem intercalate_splitAll (separator : Char) (cs : List Char) :
    [separator].intercalate (splitAll separator cs) = cs := by
  induction cs with
  | nil => rfl
  | cons c cs ih =>
    obtain ⟨piece, pieces, hpieces⟩ :=
      List.exists_cons_of_ne_nil (splitAll_ne_nil separator cs)
    rw [hpieces] at ih
    by_cases hc : c = separator
    · simp [splitAll, hc, hpieces, ih]
    · simp [splitAll, hc, hpieces, ih]

/-- All items but the first have the separator in front of them. -/
theorem intercalate_cons {α : Type} (separator first : List α) (others : List (List α)) :
    separator.intercalate (first :: others) = first ++ others.flatMap (separator ++ ·) := by
  induction others generalizing first with
  | nil => simp
  | cons next others ih =>
    rw [List.intercalate_cons_cons, ih, List.flatMap_cons, List.append_assoc, List.append_assoc]

/-- Replaces what `find` finds, from left to right and without overlap. `find` sees the character
before the place and the text from there; it answers how many characters it found, none being no
find, and what stands in their stead. The counter says how many characters are still covered by
the last find. -/
def replaceFrom (find : Option Char → List Char → Nat × List Char) :
    Option Char → Nat → List Char → List Char
  | _, _, [] => []
  | _, k + 1, c :: cs => replaceFrom find (some c) k cs
  | before, 0, c :: cs => match find before (c :: cs) with
    | (0, _) => c :: replaceFrom find (some c) 0 cs
    | (n + 1, text) => text ++ replaceFrom find (some c) n cs

theorem replaceFrom_skip (find : Option Char → List Char → Nat × List Char)
    (before : Option Char) (cs rest : List Char) :
    replaceFrom find before cs.length (cs ++ rest) =
      replaceFrom find (cs.getLast?.or before) 0 rest := by
  induction cs generalizing before with
  | nil => rfl
  | cons c cs ih => simp [replaceFrom, ih, List.getLast?_cons]

/-- Reads tokens from left to right. `next` answers how many characters the token takes after its
first one, and the token itself unless it is a gap; the counter says how many characters are
still covered by the last token. -/
def tokensFrom {α : Type} (next : List Char → Option (Nat × Option α)) :
    Nat → List Char → Option (List α)
  | _, [] => some []
  | k + 1, _ :: cs => tokensFrom next k cs
  | 0, c :: cs => match next (c :: cs) with
    | none => none
    | some (n, token) => (tokensFrom next n cs).map (token.toList ++ ·)

theorem tokensFrom_drop {α : Type} (next : List Char → Option (Nat × Option α)) (k : Nat)
    (cs : List Char) : tokensFrom next k cs = tokensFrom next 0 (cs.drop k) := by
  induction k generalizing cs with
  | zero => simp
  | succ k ih => cases cs <;> simp [tokensFrom, ih]

theorem tokensFrom_append {α : Type} {next : List Char → Option (Nat × Option α)}
    {lead rest : List Char} {token : Option α} (hne : lead ≠ [])
    (h : next (lead ++ rest) = some (lead.length - 1, token)) :
    tokensFrom next 0 (lead ++ rest) = (tokensFrom next 0 rest).map (token.toList ++ ·) := by
  obtain ⟨c, lead, rfl⟩ := List.exists_cons_of_ne_nil hne
  rw [List.cons_append] at h ⊢
  rw [tokensFrom, h, List.length_cons, Nat.add_sub_cancel]
  simp only [tokensFrom_drop next lead.length, List.drop_left]

/-- Drops every occurrence of a pattern, from left to right. -/
def removeAll (pattern : List Char) (cs : List Char) : List Char :=
  replaceFrom
    (fun _ rest => if (afterLead pattern rest).isSome then (pattern.length, []) else (0, []))
    none 0 cs

section RemoveAll

variable {pattern : List Char}

@[simp] theorem removeAll_nil (pattern : List Char) : removeAll pattern [] = [] := rfl

theorem removeAll_cons {c : Char} {cs : List Char} (h : ¬ pattern <+: c :: cs) :
    removeAll pattern (c :: cs) = c :: removeAll pattern cs := by
  have hnone : (afterLead pattern (c :: cs)).isSome = false :=
    Bool.eq_false_iff.2 (mt isSome_afterLead_iff.1 h)
  rw [removeAll, replaceFrom, hnone]
  cases cs <;> rfl

theorem removeAll_append (hne : pattern ≠ []) (rest : List Char) :
    removeAll pattern (pattern ++ rest) = removeAll pattern rest := by
  obtain ⟨c, cs, rfl⟩ := List.exists_cons_of_ne_nil hne
  rw [List.cons_append, removeAll, replaceFrom, ← List.cons_append, afterLead_append]
  show [] ++ replaceFrom _ (some c) cs.length (cs ++ rest) = _
  rw [replaceFrom_skip]
  cases rest <;> rfl

/-- A text without the pattern stays as it is. -/
theorem removeAll_eq_self {cs : List Char} (h : ¬ pattern <:+: cs) :
    removeAll pattern cs = cs := by
  induction cs with
  | nil => rfl
  | cons c cs ih =>
    rw [removeAll_cons fun hlead => h hlead.isInfix,
      ih fun hrest => h (hrest.trans (List.suffix_cons c cs).isInfix)]

end RemoveAll

def occurs (pattern cs : List Char) : Bool :=
  (firstAmong (afterLead pattern) cs).isSome

def lowered (s : String) : String := String.ofList (s.toList.map Char.toLower)

/-! Code points. -/

/-- Whether a code point lies in one of the ranges; both ends of a range belong to it. -/
def inRanges (ranges : List (Nat × Nat)) (n : Nat) : Bool :=
  ranges.any fun range => range.1 ≤ n && n ≤ range.2

def hexDigit? (c : Char) : Option Nat :=
  if c.isDigit then some (c.toNat - '0'.toNat)
  else if 'a' ≤ c ∧ c ≤ 'f' then some (c.toNat - 'a'.toNat + 10)
  else if 'A' ≤ c ∧ c ≤ 'F' then some (c.toNat - 'A'.toNat + 10)
  else none

def hexNumber? (digits : List Char) : Option Nat :=
  digits.foldlM (fun n c => (hexDigit? c).map (n * 16 + ·)) 0

/-- The number of the first `width` characters, if all of them are digits in base sixteen. -/
def hexLead? (width : Nat) (cs : List Char) : Option Nat :=
  let digits := cs.take width
  if digits.length = width then hexNumber? digits else none

end FluentQuery.Text
