import FluentQuery.Proofs.BareNames
import FluentQuery.Proofs.Numerals
import FluentQuery.Proofs.PrefixCodes
import FluentQuery.Table.Display

/-!
Displays of structured data. Main statement: a structure's display determines the displays of its
fields, wherever it stands.
-/
namespace FluentQuery.Display

/-! Digits in base sixteen. -/

theorem hexDigit?_digitChar : ∀ n < 16, Text.hexDigit? n.digitChar = some n := by decide

theorem eq_of_digitChar {m n : Nat} (hm : m < 16) (hn : n < 16) (h : m.digitChar = n.digitChar) :
    m = n := by
  have hvalue := hexDigit?_digitChar m hm
  rw [h, hexDigit?_digitChar n hn] at hvalue
  exact (Option.some.inj hvalue).symm

theorem digitChar_ne_brace : ∀ n < 16, n.digitChar ≠ '\x7d' := by decide

theorem hexadecimal_of_lt {n : Nat} (h : n < 16) : hexadecimal n = [n.digitChar] :=
  Nat.toDigits_of_lt_base h

theorem hexadecimal_of_le {n : Nat} (h : 16 ≤ n) :
    hexadecimal n = hexadecimal (n / 16) ++ [(n % 16).digitChar] :=
  Nat.toDigits_of_base_le (by decide) h

theorem hexadecimal_injective {m n : Nat} (h : hexadecimal m = hexadecimal n) : m = n := by
  have hne : ∀ n, hexadecimal n ≠ [] := fun n => Nat.toDigits_ne_nil
  induction m using Nat.strongRecOn generalizing n with
  | ind m ih =>
    by_cases hm : m < 16
    · by_cases hn : n < 16
      · rw [hexadecimal_of_lt hm, hexadecimal_of_lt hn] at h
        exact eq_of_digitChar hm hn (List.cons.inj h).1
      · rw [hexadecimal_of_lt hm, hexadecimal_of_le (Nat.not_lt.1 hn)] at h
        exact absurd (List.append_eq_singleton_iff.1 h.symm) (by simp [hne])
    · by_cases hn : n < 16
      · rw [hexadecimal_of_lt hn, hexadecimal_of_le (Nat.not_lt.1 hm)] at h
        exact absurd (List.append_eq_singleton_iff.1 h) (by simp [hne])
      · rw [hexadecimal_of_le (Nat.not_lt.1 hm), hexadecimal_of_le (Nat.not_lt.1 hn)] at h
        obtain ⟨hfront, hlast⟩ := List.append_inj' h rfl
        have hquotient := ih (m / 16) (by omega) hfront
        have hremainder := eq_of_digitChar (Nat.mod_lt m (by decide)) (Nat.mod_lt n (by decide))
          (List.cons.inj hlast).1
        omega

theorem not_mem_hexadecimal (n : Nat) : '\x7d' ∉ hexadecimal n := by
  induction n using Nat.strongRecOn with
  | ind n ih =>
    by_cases hn : n < 16
    · rw [hexadecimal_of_lt hn, List.mem_singleton]
      exact (digitChar_ne_brace n hn).symm
    · rw [hexadecimal_of_le (Nat.not_lt.1 hn), List.mem_append, List.mem_singleton, not_or]
      exact ⟨ih (n / 16) (by omega), (digitChar_ne_brace _ (Nat.mod_lt n (by decide))).symm⟩

/-! Quoted texts. -/

def letters : List (Char × Char) :=
  [('"', '"'), ('\\', '\\'), ('\n', 'n'), ('\r', 'r'), ('\t', 't'), ('\x00', '0')]

theorem eq_of_letter : ∀ p ∈ letters, ∀ q ∈ letters, p.2 = q.2 → p.1 = q.1 := by decide

theorem letter_ne : ∀ p ∈ letters, p.2 ≠ 'u' := by decide

def codePoint (c : Char) : List Char := 'u' :: '\x7b' :: hexadecimal c.toNat ++ ['\x7d']

theorem escaped_cases (c : Char) :
    (∃ letter, (c, letter) ∈ letters ∧ escaped c = ['\\', letter]) ∨
      escaped c = '\\' :: codePoint c ∨ (escaped c = [c] ∧ c ≠ '"' ∧ c ≠ '\\') := by
  unfold escaped
  split
  · exact .inl ⟨'"', by decide, rfl⟩
  · exact .inl ⟨'\\', by decide, rfl⟩
  · exact .inl ⟨'n', by decide, rfl⟩
  · exact .inl ⟨'r', by decide, rfl⟩
  · exact .inl ⟨'t', by decide, rfl⟩
  · exact .inl ⟨'0', by decide, rfl⟩
  · next hquote hslash _ _ _ _ =>
    split
    · exact .inr (.inr ⟨rfl, hquote, hslash⟩)
    · exact .inr (.inl rfl)

theorem word_cases {c : Char} {word : List Char} (h : escaped c = '\\' :: word) :
    (∃ letter, (c, letter) ∈ letters ∧ word = [letter]) ∨ word = codePoint c := by
  rcases escaped_cases c with ⟨letter, hmem, hc⟩ | hc | ⟨hc, -, hslash⟩
  · exact .inl ⟨letter, hmem, (List.cons.inj (hc.symm.trans h)).2.symm⟩
  · exact .inr (List.cons.inj (hc.symm.trans h)).2.symm
  · exact absurd (List.cons.inj (hc.symm.trans h)).1 hslash

theorem codePoint_append_inj {c d : Char} {rest more : List Char}
    (h : codePoint c ++ rest = codePoint d ++ more) : c = d ∧ rest = more := by
  have hdigits : hexadecimal c.toNat ++ '\x7d' :: rest = hexadecimal d.toNat ++ '\x7d' :: more := by
    simpa [codePoint] using h
  obtain ⟨hcode, hrest⟩ :=
    append_mark_inj (not_mem_hexadecimal _) (not_mem_hexadecimal _) hdigits
  exact ⟨Char.toNat_inj.1 (hexadecimal_injective hcode), hrest⟩

theorem prefixCode_escaped : PrefixCode escaped := by
  refine PrefixCode.of_escapes '\\' ?_ ?_
  · intro c
    rcases escaped_cases c with ⟨letter, -, h⟩ | h | ⟨h, -, hslash⟩
    · exact .inl ⟨_, h⟩
    · exact .inl ⟨_, h⟩
    · exact .inr ⟨h, hslash⟩
  · intro c d word other rest more hc hd h
    rcases word_cases hc with ⟨letter, hletter, rfl⟩ | rfl <;>
      rcases word_cases hd with ⟨letter', hletter', rfl⟩ | rfl
    · obtain ⟨hsame, hrest⟩ := List.cons.inj h
      exact ⟨eq_of_letter _ hletter _ hletter' hsame, hrest⟩
    · exact absurd (List.cons.inj h).1 (letter_ne _ hletter)
    · exact absurd (List.cons.inj h).1.symm (letter_ne _ hletter')
    · exact codePoint_append_inj h

theorem quote_ne_escaped (c : Char) (tail tail' : List Char) : '"' :: tail ≠ escaped c ++ tail' := by
  intro h
  rcases escaped_cases c with ⟨letter, -, hc⟩ | hc | ⟨hc, hquote, -⟩
  · rw [hc] at h
    exact absurd (List.cons.inj h).1 (by decide)
  · rw [hc] at h
    exact absurd (List.cons.inj h).1 (by decide)
  · rw [hc] at h
    exact hquote (List.cons.inj h).1.symm

theorem toList_quoted (s : String) :
    (quoted s).toList = '"' :: (s.toList.flatMap escaped ++ ['"']) := by
  simp [quoted]

theorem prefixCode_quoted : PrefixCode fun s => (quoted s).toList where
  append_inj := by
    intro s t rest more h
    simp only [toList_quoted, List.cons_append, List.append_assoc, List.nil_append] at h
    obtain ⟨hchars, hend⟩ := prefixCode_escaped.flatMap_append_inj
      (fun c => quote_ne_escaped c rest) (fun c => quote_ne_escaped c more) (List.cons.inj h).2
    exact ⟨String.toList_inj.1 hchars, (List.cons.inj hend).2⟩

theorem quoted_injective {s t : String} (h : quoted s = quoted t) : s = t := by
  have hchars : (quoted s).toList ++ [] = (quoted t).toList ++ [] := by rw [h]
  exact (prefixCode_quoted.append_inj hchars).1

/-! Displays in front of what follows them. -/

def Ends (rest : List Char) : Prop := ∀ c ∈ rest.head?, c.isDigit = false

/-- Two displays are told apart, or are the same, wherever no digit follows them. -/
def Apart (a b : String) : Prop :=
  ∀ rest more, Ends rest → Ends more → a.toList ++ rest = b.toList ++ more → a = b ∧ rest = more

@[simp] theorem apart_self (a : String) : Apart a a :=
  fun _ _ _ _ h => ⟨rfl, List.append_cancel_left h⟩

@[simp] theorem apart_quoted (s t : String) : Apart (quoted s) (quoted t) := by
  intro rest more _ _ h
  obtain ⟨rfl, hrest⟩ := prefixCode_quoted.append_inj h
  exact ⟨rfl, hrest⟩

@[simp] theorem apart_naturalText (m n : Nat) : Apart (naturalText m) (naturalText n) := by
  intro rest more hrest hmore h
  simp only [naturalText, String.toList_ofList] at h
  have hdigits := Numeral.takeWhile_digits (Numeral.isDigit_toDigits m) hrest
  have htail := Numeral.dropWhile_digits (Numeral.isDigit_toDigits m) hrest
  rw [h, Numeral.takeWhile_digits (Numeral.isDigit_toDigits n) hmore] at hdigits
  rw [h, Numeral.dropWhile_digits (Numeral.isDigit_toDigits n) hmore] at htail
  exact ⟨by rw [naturalText, naturalText, hdigits], htail.symm⟩

theorem apart_case {name a b : String} (h : Apart a b) : Apart (case name a) (case name b) := by
  intro rest more _ _ he
  have hargument : a.toList ++ ')' :: rest = b.toList ++ ')' :: more := by
    simpa [case] using he
  have hends : ∀ rest, Ends (')' :: rest) := fun rest c hc => by
    rw [← Option.some.inj hc]
    rfl
  obtain ⟨hsame, hrest⟩ := h _ _ (hends rest) (hends more) hargument
  exact ⟨by rw [hsame], (List.cons.inj hrest).2⟩

theorem case_injective {name a b : String} (h : case name a = case name b) : a = b := by
  have hchars : a.toList ++ [')'] = b.toList ++ [')'] := by
    simpa [case] using congrArg String.toList h
  exact String.toList_inj.1 (List.append_cancel_right hchars)

theorem apart_option {a b : Option String} (h : ∀ s ∈ a, ∀ t ∈ b, Apart s t) :
    Apart (option a) (option b) := by
  cases a with
  | none =>
    cases b with
    | none => exact apart_self _
    | some t => exact fun rest more _ _ he => absurd he (by simp [option, case])
  | some s =>
    cases b with
    | none => exact fun rest more _ _ he => absurd he (by simp [option, case])
    | some t => exact apart_case (h s rfl t rfl)

@[simp] theorem apart_optionalText (a b : Option String) : Apart (optionalText a) (optionalText b) := by
  refine apart_option fun s hs t ht => ?_
  obtain ⟨s, -, rfl⟩ := Option.map_eq_some_iff.1 hs
  obtain ⟨t, -, rfl⟩ := Option.map_eq_some_iff.1 ht
  exact apart_quoted s t

theorem optionalText_injective {a b : Option String} (h : optionalText a = optionalText b) :
    a = b := by
  cases a with
  | none =>
    cases b with
    | none => rfl
    | some t => exact absurd (congrArg String.toList h) (by simp [optionalText, option, case])
  | some s =>
    cases b with
    | none => exact absurd (congrArg String.toList h) (by simp [optionalText, option, case])
    | some t => rw [quoted_injective (case_injective h)]

@[simp] theorem apart_bool (a b : Bool) : Apart (bool a) (bool b) := by
  intro rest more _ _ h
  cases a <;> cases b <;> simp [bool] at h ⊢ <;> exact h

def entry (pair : String × String) : List Char :=
  (quoted pair.1).toList ++ ([':', ' '] ++ (quoted pair.2).toList)

theorem prefixCode_entry : PrefixCode entry where
  append_inj := by
    rintro ⟨key, value⟩ ⟨key', value'⟩ rest more h
    simp only [entry, List.append_assoc] at h
    obtain ⟨rfl, htail⟩ := prefixCode_quoted.append_inj h
    obtain ⟨rfl, hrest⟩ := prefixCode_quoted.append_inj (List.append_cancel_left htail)
    exact ⟨rfl, hrest⟩

def texts (pairs : List (String × String)) : String :=
  map (pairs.map fun pair => (quoted pair.1, quoted pair.2))

theorem toList_texts (pairs : List (String × String)) :
    (texts pairs).toList = '\x7b' :: ([',', ' '].intercalate (pairs.map entry) ++ ['\x7d']) := by
  have hentries : String.toList ∘ (fun e : String × String => e.1 ++ ": " ++ e.2) ∘
      (fun pair => (quoted pair.1, quoted pair.2)) = entry := by
    funext pair
    simp [entry]
  simp [texts, map, hentries]

theorem texts_append_inj {pairs others : List (String × String)} {rest more : List Char}
    (h : (texts pairs).toList ++ rest = (texts others).toList ++ more) :
    pairs = others ∧ rest = more := by
  simp only [toList_texts, List.cons_append, List.append_assoc, List.nil_append] at h
  refine prefixCode_entry.intercalate_append_inj ?_ ?_ (List.cons.inj h).2
  · intro pair tail tail' he
    rw [entry, toList_quoted] at he
    exact absurd (List.cons.inj he).1 (by decide)
  · intro tail tail' he
    exact absurd (List.cons.inj he).1 (by decide)

theorem texts_injective {pairs others : List (String × String)} (h : texts pairs = texts others) :
    pairs = others := by
  have hchars : (texts pairs).toList ++ [] = (texts others).toList ++ [] := by rw [h]
  exact (texts_append_inj hchars).1

@[simp] theorem apart_texts (pairs others : List (String × String)) :
    Apart (texts pairs) (texts others) := by
  intro rest more _ _ h
  obtain ⟨rfl, hrest⟩ := texts_append_inj h
  exact ⟨rfl, hrest⟩

/-! Structures. -/

def fieldList (fields : List (String × String)) : String :=
  ", ".intercalate (fields.map fun f => f.1 ++ ": " ++ f.2)

/-- Fields of the same names whose values are told apart. -/
def SameFields (fields others : List (String × String)) : Prop :=
  List.Forall₂ (fun f g => f.1 = g.1 ∧ Apart f.2 g.2) fields others

theorem fieldList_append_inj {fields others : List (String × String)} {rest more : List Char}
    (h : SameFields fields others)
    (he : (fieldList fields).toList ++ ' ' :: rest = (fieldList others).toList ++ ' ' :: more) :
    fields = others ∧ rest = more := by
  have hends : ∀ c, c.isDigit = false → ∀ rest, Ends (c :: rest) := fun c hc rest d hd => by
    rw [← Option.some.inj hd]
    exact hc
  induction h with
  | nil => exact ⟨rfl, (List.cons.inj he).2⟩
  | @cons f g fields others hfield hfields ih =>
    obtain ⟨name, a⟩ := f
    obtain ⟨name', b⟩ := g
    obtain ⟨rfl, hvalue⟩ := hfield
    cases hfields with
    | nil =>
      have htail : a.toList ++ ' ' :: rest = b.toList ++ ' ' :: more := by
        simpa [fieldList] using he
      obtain ⟨rfl, hrest⟩ := hvalue _ _ (hends ' ' rfl rest) (hends ' ' rfl more) htail
      exact ⟨rfl, (List.cons.inj hrest).2⟩
    | @cons f' g' fields others hfield hfields =>
      have htail : a.toList ++ ',' :: ' ' :: ((fieldList (f' :: fields)).toList ++ ' ' :: rest) =
          b.toList ++ ',' :: ' ' :: ((fieldList (g' :: others)).toList ++ ' ' :: more) := by
        simpa [fieldList, String.intercalate_cons_cons] using he
      obtain ⟨rfl, hnext⟩ := hvalue _ _ (hends ',' rfl _) (hends ',' rfl _) htail
      obtain ⟨hmore, hrest⟩ := ih (List.cons.inj (List.cons.inj hnext).2).2
      exact ⟨by rw [hmore], hrest⟩

theorem record_append_inj {name : String} {fields others : List (String × String)}
    {rest more : List Char} (h : SameFields fields others)
    (he : (record name fields).toList ++ rest = (record name others).toList ++ more) :
    fields = others ∧ rest = more := by
  have hlist : (fieldList fields).toList ++ ' ' :: ('\x7d' :: rest) =
      (fieldList others).toList ++ ' ' :: ('\x7d' :: more) := by
    simpa [record, fieldList] using he
  obtain ⟨hfields, hrest⟩ := fieldList_append_inj h hlist
  exact ⟨hfields, (List.cons.inj hrest).2⟩

theorem record_injective {name : String} {fields others : List (String × String)}
    (h : SameFields fields others) (he : record name fields = record name others) :
    fields = others := by
  have hchars : (record name fields).toList ++ [] = (record name others).toList ++ [] := by rw [he]
  exact (record_append_inj h hchars).1

theorem apart_record {name : String} {fields others : List (String × String)}
    (h : SameFields fields others) : Apart (record name fields) (record name others) := by
  intro rest more _ _ he
  obtain ⟨rfl, hrest⟩ := record_append_inj h he
  exact ⟨rfl, hrest⟩

end FluentQuery.Display
