import DependencyGate.Proofs.Time.Regimes
import DependencyGate.Time.ZoneName
import Mathlib.Data.List.Chain
import Mathlib.Data.String.Basic

/-!
# Names of known zones

Every official name is found (`ZoneBase.known_complete`): `zoneSpelling` changes none of them, since
none holds a word that stands for a sign. A text is not split where the first two letters of the
separator never follow one another (`splitOn_absent`), which is all that is needed of the names.
The zones that are found are regular (`ZoneBase.known_regular`).
-/

namespace DependencyGate.Time

open String (utf8Len)

-- ---------------------------------------------------------------------------
-- Texts without a separator
-- ---------------------------------------------------------------------------

theorem splitOnAux_at_end (cs : List Char) (sep : String) (j : String.Pos.Raw) :
    String.splitOnAux (.ofList cs) sep 0 ⟨utf8Len cs⟩ j [] = [.ofList cs] := by
  have hend := (String.atEnd_of_valid cs []).mpr rfl
  have hall := String.extract_of_valid [] cs []
  simp only [List.nil_append, List.append_nil, String.utf8Len_nil, Nat.zero_add] at hend hall
  rw [String.splitOnAux, if_pos hend]
  exact congrArg (· :: []) hall

theorem at_letter (cs : List Char) (c : Char) (rest : List Char) :
    String.Pos.Raw.get (.ofList (cs ++ c :: rest)) ⟨utf8Len cs⟩ = c ∧
      String.Pos.Raw.next (.ofList (cs ++ c :: rest)) ⟨utf8Len cs⟩ = ⟨utf8Len (cs ++ [c])⟩ ∧
      ¬ String.Pos.Raw.atEnd (.ofList (cs ++ c :: rest)) ⟨utf8Len cs⟩ = true := by
  refine ⟨String.get_of_valid cs (c :: rest), ?_, ?_⟩
  · simpa using String.next_of_valid cs c rest
  · exact mt (String.atEnd_of_valid cs (c :: rest)).mp (List.cons_ne_nil _ _)

theorem splitOnAux_absent {a b : Char} {others : List Char} (cs : List Char) {cs' : List Char}
    (h : cs'.IsChain fun c d => ¬ (c = a ∧ d = b)) :
    String.splitOnAux (.ofList (cs ++ cs')) (.ofList (a :: b :: others)) 0 ⟨utf8Len cs⟩ 0 [] =
      [.ofList (cs ++ cs')] := by
  have hfirst : String.Pos.Raw.get (.ofList (a :: b :: others)) 0 = a :=
    (at_letter [] a (b :: others)).1
  have hpast : String.Pos.Raw.next (.ofList (a :: b :: others)) 0 = ⟨utf8Len [a]⟩ :=
    (at_letter [] a (b :: others)).2.1
  obtain ⟨hsecond, -, hlong⟩ := at_letter [a] b others
  rw [List.singleton_append] at hsecond hlong
  induction cs' generalizing cs with
  | nil => simpa using splitOnAux_at_end cs _ 0
  | cons c rest ih =>
    obtain ⟨hget, hnext, hmore⟩ := at_letter cs c rest
    have hih := ih (cs ++ [c]) h.tail
    rw [List.append_assoc, List.singleton_append] at hih
    rw [String.splitOnAux, if_neg hmore, hget, hfirst]
    by_cases hc : c = a
    · subst hc
      rw [if_pos (beq_self_eq_true c)]
      dsimp only
      rw [hnext, hpast, if_neg hlong]
      cases rest with
      | nil => exact splitOnAux_at_end (cs ++ [c]) _ _
      | cons d rest =>
        -- The next letter is another one than that of the separator, and is looked at once more.
        have hd : d ≠ b := fun hd => (List.isChain_cons_cons.mp h).1 ⟨rfl, hd⟩
        obtain ⟨hget', -, hmore'⟩ := at_letter (cs ++ [c]) d rest
        rw [List.append_assoc, List.singleton_append] at hget' hmore'
        have hback : (⟨utf8Len (cs ++ [c])⟩ : String.Pos.Raw).unoffsetBy ⟨utf8Len [c]⟩ =
            ⟨utf8Len cs⟩ := by
          simp [String.Pos.Raw.unoffsetBy]
        rw [String.splitOnAux, if_neg hmore', hget', hsecond, if_neg (by simpa using hd), hback,
          hnext]
        exact hih
    · have hunmoved : (⟨utf8Len cs⟩ : String.Pos.Raw).unoffsetBy 0 = ⟨utf8Len cs⟩ := rfl
      rw [if_neg (by simpa using hc), hunmoved, hnext]
      exact hih

theorem splitOn_absent {s sep : String} (hsep : sep.toList = a :: b :: others)
    (h : s.toList.IsChain fun c d => ¬ (c = a ∧ d = b)) : s.splitOn sep = [s] := by
  have hlist : sep = .ofList (a :: b :: others) := by rw [← hsep, String.ofList_toList]
  have hne : sep ≠ "" := fun hempty => by rw [hempty] at hsep; cases hsep
  have habsent : String.splitOnAux (.ofList ([] ++ s.toList)) (.ofList (a :: b :: others)) 0
      ⟨utf8Len []⟩ 0 [] = [.ofList ([] ++ s.toList)] := splitOnAux_absent [] h
  rw [String.splitOn, if_neg (by simpa using hne), hlist]
  simpa using habsent

-- ---------------------------------------------------------------------------
-- Spellings
-- ---------------------------------------------------------------------------

/-- In the name no word starts that stands for a sign. -/
def FreeOfSigns (name : String) : Prop :=
  name.toList.IsChain fun c d => ¬ (c = '_' ∧ (d = 'p' ∨ d = 'm'))

instance (name : String) : Decidable (FreeOfSigns name) :=
  inferInstanceAs (Decidable (name.toList.IsChain _))

theorem zoneSpelling_eq {name : String} (h : FreeOfSigns name) : zoneSpelling name = name := by
  have hplus : name.splitOn "_plus_" = [name] :=
    splitOn_absent rfl (h.imp fun _ _ hfree hmet => hfree ⟨hmet.1, .inl hmet.2⟩)
  have hminus : name.splitOn "_minus_" = [name] :=
    splitOn_absent rfl (h.imp fun _ _ hfree hmet => hfree ⟨hmet.1, .inr hmet.2⟩)
  rw [zoneSpelling, hplus, String.intercalate_singleton, hminus, String.intercalate_singleton]

theorem ZoneBase.known_complete : ZoneBase.known.Complete := by
  have hnames : ∀ entry ∈ zones, FreeOfSigns entry.1 ∧ (zoneNamed? entry.1).isSome := by
    decide +kernel
  intro name h
  obtain ⟨entry, hentry, hname⟩ := List.any_eq_true.mp h
  obtain ⟨hfree, hknown⟩ := hnames entry hentry
  rw [beq_iff_eq.mp hname] at hfree hknown
  obtain ⟨z, hz⟩ := Option.isSome_iff_exists.mp hknown
  refine ⟨z, ?_⟩
  simp only [known, zoneSpelling_eq hfree, ite_self, hz]

-- ---------------------------------------------------------------------------
-- Tables
-- ---------------------------------------------------------------------------

theorem zones_regular : ∀ entry ∈ zones, entry.2.Regular := by
  decide +kernel

theorem ZoneBase.known_regular (h : known.find name = .ok z) : z.Regular := by
  dsimp only [known] at h
  split at h
  next hfound =>
    cases h
    obtain ⟨entry, hentry, rfl⟩ := Option.map_eq_some_iff.mp hfound
    exact zones_regular entry (List.mem_of_find?_eq_some hentry)
  next => cases h

end DependencyGate.Time
