import DependencyGate.Declaration.Reader
import DependencyGate.Proofs.Computation
import Mathlib.Data.List.TakeWhile

/-!
# Names of relations

Any value is read as a relation by its running text. Only a text can name one, since what
stands for a value of another kind opens with a character that neither name opens with
(`Relation.read_ok`).
-/

namespace DependencyGate

open Json (Value)
open Number (Binary64 Decimal)

-- ---------------------------------------------------------------------------
-- The first character of a text
-- ---------------------------------------------------------------------------

namespace Text

/-- A character that stays in front when a text is trimmed and lower-cased, and then is
neither the first of "and" nor of "or". -/
def opensNoName (c : Char) : Bool :=
  c.toNat < 0x80 && !isBlank c && c.toLower != 'a' && c.toLower != 'o'

def OpensNoName (cs : List Char) : Prop := ∃ c rest, cs = c :: rest ∧ opensNoName c = true

theorem opensNoName_of_isDigit {c : Char} (h : c.isDigit = true) : opensNoName c = true := by
  obtain ⟨hlow, hhigh⟩ := Char.isDigit_iff_toNat.mp h
  change 48 ≤ c.toNat at hlow
  change c.toNat ≤ 57 at hhigh
  have hdigits : ∀ n : Fin 10, opensNoName (Char.ofNat (48 + n)) = true := by decide
  have hc := hdigits ⟨c.toNat - 48, by omega⟩
  rwa [show 48 + (c.toNat - 48) = c.toNat by omega, Char.ofNat_toNat] at hc

theorem digits_openNoName (n : Nat) : OpensNoName (Nat.toDigits 10 n) := by
  cases hdigits : Nat.toDigits 10 n with
  | nil => exact absurd hdigits Nat.toDigits_ne_nil
  | cons c rest =>
    have hmem : c ∈ Nat.toDigits 10 n := hdigits ▸ List.mem_cons_self
    exact ⟨c, rest, rfl, opensNoName_of_isDigit
      (Nat.isDigit_of_mem_toDigits (by decide) (by decide) hmem)⟩

theorem trimEnd_cons {c : Char} (hc : isBlank c = false) (rest : List Char) :
    trimEnd (c :: rest) = c :: trimEnd rest := by
  have hkept : [c].dropWhile isBlank = [c] := by simp [hc]
  unfold trimEnd
  rw [List.reverse_cons, List.dropWhile_append, hkept]
  split
  next h => rw [List.isEmpty_iff.mp h]; rfl
  next h => rw [List.reverse_append]; rfl

theorem trim_eq_empty_iff {s : String} : trim s = "" ↔ blank s = true := by
  have hempty : trim s = "" ↔ trimEnd (s.toList.dropWhile isBlank) = [] := by
    rw [trim, trimChars, ← String.toList_inj, String.toList_ofList, String.toList_empty]
  have hblank : blank s = true ↔ s.toList.dropWhile isBlank = [] := by
    rw [blank, List.all_eq_true, List.dropWhile_eq_nil_iff]
  rw [hempty, hblank]
  cases hrest : s.toList.dropWhile isBlank with
  | nil => exact ⟨fun _ => rfl, fun _ => rfl⟩
  | cons c rest =>
    have hc : isBlank c = false := by
      have hne : s.toList.dropWhile isBlank ≠ [] := by simp [hrest]
      simpa only [hrest, List.head_cons] using List.head_dropWhile_not isBlank hne
    rw [trimEnd_cons hc]
    simp only [reduceCtorEq]

theorem lower_trim_ne_name {s : String} (h : OpensNoName s.toList) (r : Relation) :
    lower (trim s) ≠ r.name := by
  obtain ⟨c, rest, hs, hc⟩ := h
  simp only [opensNoName, Bool.and_eq_true, decide_eq_true_eq, Bool.not_eq_true', bne_iff_ne] at hc
  obtain ⟨⟨⟨hascii, hblank⟩, ha⟩, ho⟩ := hc
  have htrim : (trim s).toList = c :: trimEnd rest := by
    simp only [trim, trimChars, String.toList_ofList, hs, List.dropWhile_cons, hblank,
      Bool.false_eq_true, if_false, trimEnd_cons hblank]
  have hlower : ∃ tail, (lower (trim s)).toList = c.toLower :: tail := by
    have hsigma : c.toNat ≠ 0x3A3 := by omega
    refine ⟨lowerFrom [c] (trimEnd rest), ?_⟩
    simp only [lower, String.toList_ofList, htrim, lowerFrom, lowerChar, if_neg hsigma,
      if_pos hascii, List.singleton_append]
  obtain ⟨tail, htail⟩ := hlower
  intro hname
  rw [hname] at htail
  cases r with
  | all => exact ha (List.cons.inj htail).1.symm
  | any => exact ho (List.cons.inj htail).1.symm

end Text

-- ---------------------------------------------------------------------------
-- Values other than texts
-- ---------------------------------------------------------------------------

theorem Number.Decimal.layOut_opensNoName (d : Decimal) : Text.OpensNoName d.layOut := by
  obtain ⟨c, rest, hdigits, hc⟩ := Text.digits_openNoName d.digits
  unfold Decimal.layOut
  simp only [hdigits]
  split
  · cases rest with
    | nil => exact ⟨c, _, rfl, hc⟩
    | cons c' rest' => exact ⟨c, _, rfl, hc⟩
  · split
    · exact ⟨'0', _, rfl, by decide⟩
    · split
      next hpoint _ =>
        obtain ⟨n, hn⟩ : ∃ n : Nat, ((c :: rest).length + d.exponent).toNat = n + 1 :=
          ⟨((c :: rest).length + d.exponent).toNat - 1, by omega⟩
        simp only [hn, List.take_succ_cons]
        exact ⟨c, _, rfl, hc⟩
      · exact ⟨c, _, rfl, hc⟩

theorem Number.Binary64.text_opensNoName (x : Binary64) : Text.OpensNoName x.text.toList := by
  cases x with
  | nan => exact ⟨'n', _, rfl, by decide⟩
  | infinity negative =>
    cases negative with
    | false => exact ⟨'i', _, rfl, by decide⟩
    | true => exact ⟨'-', _, rfl, by decide⟩
  | finite negative mantissa exponent =>
    rw [Binary64.text, String.toList_ofList]
    cases negative with
    | true => exact ⟨'-', _, rfl, by decide⟩
    | false =>
      change Text.OpensNoName (if mantissa = 0 then _ else _)
      split
      · exact ⟨'0', _, rfl, by decide⟩
      · exact Decimal.layOut_opensNoName _

theorem int_opensNoName (n : Int) : Text.OpensNoName (toString n).toList := by
  cases n with
  | ofNat n =>
    have htext : (toString (Int.ofNat n)).toList = Nat.toDigits 10 n := by
      rw [show toString (Int.ofNat n) = toString n from rfl, Nat.toString_eq_ofList_toDigits,
        String.toList_ofList]
    rw [htext]
    exact Text.digits_openNoName n
  | negSucc n =>
    have htext : toString (Int.negSucc n) = "-" ++ (n + 1).repr := rfl
    rw [htext, String.toList_append]
    exact ⟨'-', _, rfl, by decide⟩

theorem Json.Value.plain_opensNoName {v : Value} (h : ∀ s, v ≠ .str s) :
    Text.OpensNoName v.plain.toList := by
  cases v with
  | null => exact ⟨'N', _, rfl, by decide⟩
  | bool b =>
    cases b with
    | false => exact ⟨'F', _, rfl, by decide⟩
    | true => exact ⟨'T', _, rfl, by decide⟩
  | int n => exact int_opensNoName n
  | real x => exact x.text_opensNoName
  | str s => exact absurd rfl (h s)
  | list items =>
    change Text.OpensNoName (("[" ++ ", ".intercalate (shownItems items) ++ "]")).toList
    rw [String.toList_append, String.toList_append]
    exact ⟨'[', _, rfl, by decide⟩
  | object fields =>
    change Text.OpensNoName (("\x7b" ++ ", ".intercalate (shownFields fields) ++ "\x7d")).toList
    rw [String.toList_append, String.toList_append]
    exact ⟨'\x7b', _, rfl, by decide⟩

-- ---------------------------------------------------------------------------
-- Relations
-- ---------------------------------------------------------------------------

theorem Relation.ofName?_eq_some_iff {name : String} {r : Relation} :
    Relation.ofName? name = some r ↔ name = r.name := by
  constructor
  · intro h
    unfold ofName? at h
    split at h
    next hname => cases h; exact hname
    next =>
      split at h
      next hname => cases h; exact hname
      next => cases h
  · rintro rfl
    cases r <;> decide

theorem Relation.read_ok {v : Value} {r : Relation} :
    Relation.read v = .ok r ↔ ∃ s, v = .str s ∧ Text.lower (Text.trim s) = r.name := by
  have hread : Relation.read v = .ok r ↔ Text.lower (Text.trim v.plain) = r.name := by
    rw [← Relation.ofName?_eq_some_iff, Relation.read]
    split
    next r' hr => rw [hr, Except.ok.injEq, Option.some.injEq]
    next hr => simp [hr]
  rw [hread]
  constructor
  · intro hname
    by_cases htext : ∃ s, v = .str s
    · obtain ⟨s, rfl⟩ := htext
      exact ⟨s, rfl, hname⟩
    · have hother : ∀ s, v ≠ .str s := fun s hs => htext ⟨s, hs⟩
      exact absurd hname (Text.lower_trim_ne_name (Value.plain_opensNoName hother) r)
  · rintro ⟨s, rfl, hname⟩
    exact hname

end DependencyGate
