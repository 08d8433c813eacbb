import FluentQuery.Json.Printer
import FluentQuery.Json.Token
import FluentQuery.Proofs.NumberTexts
import Mathlib.Tactic.IntervalCases

/-!
The tokens of compact texts. Main statement: in front of what ends a numeral, a compact text has the
tokens of its value, if the numbers in it are read back from their own texts.
-/
namespace FluentQuery.Json

/-! Strings. -/

theorem escaped_eq_cons (c : Char) : ∃ first more, escaped c = first :: more ∧ first ≠ '"' ∧
    ∀ rest, bodyChar? (first :: (more ++ rest)) = some (c, more.length) := by
  by_cases hquote : c = '"'
  · exact ⟨_, _, by rw [hquote]; rfl, by decide, fun _ => by rw [hquote]; rfl⟩
  by_cases hslash : c = '\\'
  · exact ⟨_, _, by rw [hslash]; rfl, by decide, fun _ => by rw [hslash]; rfl⟩
  by_cases hcontrol : c.toNat < 32
  · obtain ⟨n, hn⟩ : ∃ n, c.toNat = n := ⟨_, rfl⟩
    have hc : c = Char.ofNat n := by rw [← hn, Char.ofNat_toNat]
    rw [hn] at hcontrol
    rw [hc]
    clear hquote hslash hn hc
    interval_cases n <;> exact ⟨_, _, rfl, by decide, fun _ => rfl⟩
  · have hplain : escaped c = [c] := by
      unfold escaped
      split
      · exact absurd rfl hquote
      · exact absurd rfl hslash
      all_goals try exact absurd (by decide) hcontrol
      rw [if_neg (by omega), if_neg hcontrol]
    refine ⟨c, [], hplain, hquote, fun rest => ?_⟩
    simp [bodyChar?, hslash, hcontrol]

theorem bodyFrom_append (lead rest : List Char) : bodyFrom lead.length (lead ++ rest) =
    (bodyFrom 0 rest).map fun (body, n) => (body, lead.length + n) := by
  induction lead with
  | nil => simp
  | cons c lead ih =>
    simp only [List.length_cons, List.cons_append, bodyFrom, ih, Option.map_map]
    refine congrArg (Option.map · _) (funext fun (body, n) => ?_)
    simp only [Function.comp_apply, Prod.mk.injEq, true_and]
    omega

theorem bodyFrom_escaped (c : Char) (rest : List Char) : bodyFrom 0 (escaped c ++ rest) =
    (bodyFrom 0 rest).map fun (body, n) => (c :: body, (escaped c).length + n) := by
  obtain ⟨first, more, hescaped, hquote, hread⟩ := escaped_eq_cons c
  rw [hescaped, List.cons_append, bodyFrom, if_neg hquote, hread rest]
  simp only [bodyFrom_append, Option.map_map, List.length_cons]
  refine congrArg (Option.map · _) (funext fun (body, n) => ?_)
  simp only [Function.comp_apply, Prod.mk.injEq, true_and]
  omega

theorem bodyFrom_flatMap (cs rest : List Char) : bodyFrom 0 (cs.flatMap escaped ++ '"' :: rest) =
    some (cs, (cs.flatMap escaped).length + 1) := by
  induction cs with
  | nil => rfl
  | cons c cs ih =>
    rw [List.flatMap_cons, List.append_assoc, bodyFrom_escaped, ih, List.length_append]
    simp [Nat.add_assoc]

theorem nextToken_quoted (s : String) (rest : List Char) :
    nextToken (quoted s ++ rest) = some ((quoted s).length - 1, some (.text s)) := by
  have hbody := bodyFrom_flatMap s.toList rest
  simp [quoted, nextToken, hbody]

/-! Numbers. -/

theorem nextToken_number {c : Char} (h : c = '-' ∨ c.isDigit = true) (rest : List Char) :
    nextToken (c :: rest) = (number? (c :: rest)).map fun (j, n) => (n - 1, some (.scalar j)) := by
  rcases h with rfl | h
  · rfl
  · simp only [nextToken]
    split <;> first | cases h | rfl

theorem exists_numeral_eq_cons (n : Numeral) :
    ∃ c cs, n.chars = c :: cs ∧ (c = '-' ∨ c.isDigit = true) := by
  obtain ⟨c, cs, hwhole⟩ := List.exists_cons_of_ne_nil n.whole_ne_nil
  have hdigit : c.isDigit = true := n.isDigit_of_mem_whole c (hwhole ▸ List.mem_cons_self)
  rw [Numeral.chars, Numeral.signChars, hwhole]
  cases n.negative with
  | true => exact ⟨_, _, rfl, .inl rfl⟩
  | false => exact ⟨_, _, rfl, .inr hdigit⟩

theorem nextToken_numeral {n : Numeral} {j : Json} (hvalue : n.value? = some j) {rest : List Char}
    (h : Numeral.Ends rest) :
    nextToken (n.chars ++ rest) = some (n.chars.length - 1, some (.scalar j)) := by
  obtain ⟨c, cs, hchars, hfirst⟩ := exists_numeral_eq_cons n
  have hread := n.number?_append h
  rw [hchars] at hread ⊢
  rw [List.cons_append] at hread ⊢
  rw [nextToken_number hfirst, hread, hvalue]
  rfl

/-! Values. -/

def readsBack (x : Finite FloatFormat.double) : Bool :=
  match number? (x.chars .json) with
  | some (.float y, _) => decide (y = x)
  | _ => false

mutual

/-- Each number is read back from its own text, no object has a key twice, and at most `room` arrays
and objects are open at once. -/
def fits : Json → Nat → Bool
  | .float x, _ => readsBack x
  | .arr items, room + 1 => itemsFit items room
  | .obj entries, room + 1 => decide (Assoc.keys entries).Nodup && entriesFit entries room
  | .arr _, 0 => false
  | .obj _, 0 => false
  | _, _ => true

def itemsFit : List Json → Nat → Bool
  | [], _ => true
  | item :: items, room => item.fits room && itemsFit items room

def entriesFit : List (String × Json) → Nat → Bool
  | [], _ => true
  | (_, value) :: entries, room => value.fits room && entriesFit entries room

end

theorem entriesFit_iff {entries : List (String × Json)} {room : Nat} :
    entriesFit entries room = true ↔ ∀ entry ∈ entries, entry.2.fits room = true := by
  induction entries with
  | nil => simp [entriesFit]
  | cons entry entries ih => simp [entriesFit, ih]

mutual

def tokens : Json → List Token
  | .null => [.scalar .null]
  | .bool b => [.scalar (.bool b)]
  | .int n => [.scalar (.int n)]
  | .float x => [.scalar (.float x)]
  | .str s => [.text s]
  | .arr items => .openArray :: itemTokens items ++ [.closeArray]
  | .obj entries => .openObject :: entryTokens entries ++ [.closeObject]

def itemTokens : List Json → List Token
  | [] => []
  | [item] => item.tokens
  | item :: items => item.tokens ++ .comma :: itemTokens items

def entryTokens : List (String × Json) → List Token
  | [] => []
  | [(key, value)] => .text key :: .colon :: value.tokens
  | (key, value) :: entries => .text key :: .colon :: value.tokens ++ .comma :: entryTokens entries

end

/-- In front of a text these characters are these tokens. -/
def Leads (lead : List Char) (tokens : List Token) (rest : List Char) : Prop :=
  Text.tokensFrom nextToken 0 (lead ++ rest) = (Text.tokensFrom nextToken 0 rest).map (tokens ++ ·)

theorem leads_nil (rest : List Char) : Leads [] [] rest := by
  simp [Leads]

theorem leads_token {lead rest : List Char} {token : Token} (hne : lead ≠ [])
    (h : nextToken (lead ++ rest) = some (lead.length - 1, some token)) :
    Leads lead [token] rest := Text.tokensFrom_append hne h

theorem Leads.append {first second rest : List Char} {tokens tokens' : List Token}
    (h : Leads first tokens (second ++ rest)) (h' : Leads second tokens' rest) :
    Leads (first ++ second) (tokens ++ tokens') rest := by
  rw [Leads] at h h' ⊢
  rw [List.append_assoc, h, h', Option.map_map]
  simp [Function.comp_def]

theorem leads_quoted (s : String) (rest : List Char) : Leads (quoted s) [.text s] rest :=
  leads_token (List.cons_ne_nil _ _) (nextToken_quoted s rest)

theorem leads_numeral {n : Numeral} {j : Json} (hvalue : n.value? = some j) {rest : List Char}
    (h : Numeral.Ends rest) : Leads n.chars [.scalar j] rest := by
  obtain ⟨c, cs, hchars, -⟩ := exists_numeral_eq_cons n
  exact leads_token (hchars ▸ List.cons_ne_nil _ _) (nextToken_numeral hvalue h)

theorem leads_float {x : Finite FloatFormat.double} (hx : readsBack x = true) {rest : List Char}
    (h : Numeral.Ends rest) : Leads (x.chars .json) [.scalar (.float x)] rest := by
  obtain ⟨n, hchars, -⟩ := x.exists_numeral
  rw [readsBack, ← hchars] at hx
  split at hx
  · next y length hread =>
    obtain rfl : y = x := of_decide_eq_true hx
    rw [← hchars]
    exact leads_numeral (n.value?_of_number? hread) h
  · cases hx

theorem leads_entry (key : String) {value : Json} {rest : List Char}
    (h : Leads value.chars value.tokens rest) :
    Leads (quoted key ++ ':' :: value.chars) (.text key :: .colon :: value.tokens) rest := by
  have hcolon : Leads [':'] [.colon] (value.chars ++ rest) :=
    leads_token (List.cons_ne_nil _ _) rfl
  exact (leads_quoted key _).append (hcolon.append h)

theorem leads_comma (rest : List Char) : Leads [','] [.comma] rest :=
  leads_token (List.cons_ne_nil _ _) rfl

theorem ends_comma (rest : List Char) : Numeral.Ends (',' :: rest) :=
  Numeral.ends_cons (by decide) rest

mutual

theorem leads_chars : ∀ (j : Json) {room : Nat} {rest : List Char}, j.fits room = true →
    Numeral.Ends rest → Leads j.chars j.tokens rest
  | .null, _, rest, _, _ => leads_token (List.cons_ne_nil _ _) rfl
  | .bool true, _, rest, _, _ => leads_token (List.cons_ne_nil _ _) rfl
  | .bool false, _, rest, _, _ => leads_token (List.cons_ne_nil _ _) rfl
  | .int n, _, rest, _, h => by
    rw [chars, ← Numeral.chars_ofInteger, tokens]
    exact leads_numeral (Numeral.value?_ofInteger n) h
  | .float x, _, rest, hfits, h => by
    rw [fits] at hfits
    rw [chars, tokens]
    exact leads_float hfits h
  | .str s, _, rest, _, _ => by
    rw [chars, tokens]
    exact leads_quoted s rest
  | .arr items, 0, rest, hfits, _ => nomatch hfits
  | .obj entries, 0, rest, hfits, _ => nomatch hfits
  | .arr items, room + 1, rest, hfits, _ => by
    rw [fits] at hfits
    have hopen : Leads ['['] [.openArray] (itemChars items ++ ([']'] ++ rest)) :=
      leads_token (List.cons_ne_nil _ _) rfl
    have hitems : Leads (itemChars items) (itemTokens items) ([']'] ++ rest) :=
      leads_itemChars items hfits (Numeral.ends_cons (by decide) _)
    have hclose : Leads [']'] [.closeArray] rest := leads_token (List.cons_ne_nil _ _) rfl
    rw [chars, tokens]
    exact (hopen.append hitems).append hclose
  | .obj entries, room + 1, rest, hfits, _ => by
    rw [fits, Bool.and_eq_true] at hfits
    have hopen : Leads ['\x7b'] [.openObject] (entryChars entries ++ (['\x7d'] ++ rest)) :=
      leads_token (List.cons_ne_nil _ _) rfl
    have hentries : Leads (entryChars entries) (entryTokens entries) (['\x7d'] ++ rest) :=
      leads_entryChars entries hfits.2 (Numeral.ends_cons (by decide) _)
    have hclose : Leads ['\x7d'] [.closeObject] rest := leads_token (List.cons_ne_nil _ _) rfl
    rw [chars, tokens]
    exact (hopen.append hentries).append hclose

theorem leads_itemChars : ∀ (items : List Json) {room : Nat} {rest : List Char},
    itemsFit items room = true → Numeral.Ends rest →
      Leads (itemChars items) (itemTokens items) rest
  | [], _, rest, _, _ => leads_nil rest
  | [item], _, rest, hfits, h => by
    rw [itemsFit, Bool.and_eq_true] at hfits
    rw [itemChars, itemTokens]
    exact leads_chars item hfits.1 h
  | item :: other :: items, _, rest, hfits, h => by
    rw [itemsFit, Bool.and_eq_true] at hfits
    have hitem := leads_chars item hfits.1 (ends_comma (itemChars (other :: items) ++ rest))
    have hitems := (leads_comma _).append (leads_itemChars (other :: items) hfits.2 h)
    rw [itemChars, itemTokens]
    · exact hitem.append hitems
    · simp
    · simp

theorem leads_entryChars : ∀ (entries : List (String × Json)) {room : Nat} {rest : List Char},
    entriesFit entries room = true → Numeral.Ends rest →
      Leads (entryChars entries) (entryTokens entries) rest
  | [], _, rest, _, _ => leads_nil rest
  | [(key, value)], _, rest, hfits, h => by
    rw [entriesFit, Bool.and_eq_true] at hfits
    rw [entryChars, entryTokens]
    exact leads_entry key (leads_chars value hfits.1 h)
  | (key, value) :: other :: entries, _, rest, hfits, h => by
    rw [entriesFit, Bool.and_eq_true] at hfits
    have hvalue := leads_chars value hfits.1 (ends_comma (entryChars (other :: entries) ++ rest))
    have hentries := (leads_comma _).append (leads_entryChars (other :: entries) hfits.2 h)
    rw [entryChars, entryTokens]
    · exact (leads_entry key hvalue).append hentries
    · simp
    · simp

end

theorem tokens?_chars {j : Json} {room : Nat} (h : j.fits room = true) :
    tokens? j.chars = some j.tokens := by
  have hleads := j.leads_chars h Numeral.ends_nil
  rw [Leads, List.append_nil] at hleads
  rw [tokens?, hleads, Text.tokensFrom, Option.map_some, List.append_nil]

end FluentQuery.Json
