import DependencyGate.Console.Markup
import DependencyGate.Proofs.Computation

/-!
# Texts that can be printed

A text without an opening bracket can be printed, and so can one that is enclosed in the tags of
a colour (`plain_colored`): it holds no tag but these two, and if it ends in a backslash only the
first of them.
-/

namespace DependencyGate.Console.Markup

open Text (trimChars)

-- ---------------------------------------------------------------------------
-- Colours
-- ---------------------------------------------------------------------------

def IsColor (w : List Char) : Prop :=
  w = "red".toList ∨ w = "green".toList ∨ w = "yellow".toList

variable {w : List Char}

theorem IsColor.readColor (hw : IsColor w) :
    readColor w = .ok w ∨ readColor w = .error .unknown := by
  have hparts : (Text.lower (String.ofList w)).toList = w ∧ isHexColor w = false ∧
      bracketed? "color".toList w = none ∧ bracketed? "rgb".toList w = none := by
    rcases hw with rfl | rfl | rfl <;> decide
  obtain ⟨hlower, hhex, hcolor, hrgb⟩ := hparts
  rw [Console.readColor, hlower, hhex, hcolor, hrgb]
  cases isColorName w <;> simp

theorem IsColor.normalForm (hw : IsColor w) : Style.normalForm w = .ok w := by
  have hread : Style.read w = (do return { color := some (← Console.readColor w) }) := by
    rcases hw with rfl | rfl | rfl <;> rfl
  rw [Style.normalForm, hread]
  rcases hw.readColor with h | h
  · rw [h]
    rcases hw with rfl | rfl | rfl <;> rfl
  · rw [h]
    rcases hw with rfl | rfl | rfl <;> rfl

-- ---------------------------------------------------------------------------
-- Pieces
-- ---------------------------------------------------------------------------

def tags (ps : List Piece) : List Tag :=
  ps.filterMap fun
    | .plain _ => none
    | .tag t => some t

@[simp] theorem tags_nil : tags [] = [] := rfl
@[simp] theorem tags_plain : tags (.plain cs :: ps) = tags ps := rfl
@[simp] theorem tags_tag : tags (.tag t :: ps) = t :: tags ps := rfl

def opening (w : List Char) : Tag := ⟨w, none⟩

def closing (w : List Char) : Tag := ⟨'/' :: w, none⟩

theorem IsColor.tag?_opening (hw : IsColor w) (after : List Char) :
    tag? (w ++ ']' :: after) = some (w, after) ∧ Tag.ofText w = opening w := by
  rcases hw with rfl | rfl | rfl <;> exact ⟨rfl, rfl⟩

theorem IsColor.tag?_closing (hw : IsColor w) (after : List Char) :
    tag? ('/' :: w ++ ']' :: after) = some ('/' :: w, after) ∧
      Tag.ofText ('/' :: w) = closing w := by
  rcases hw with rfl | rfl | rfl <;> exact ⟨rfl, rfl⟩

theorem tags_pieces_nil : tags (pieces fuel before []) = [] := by
  cases fuel <;> rfl

theorem pieces_skip {p rest : List Char} (hp : ∀ c ∈ p, c ≠ '[' ∧ c ≠ '\\')
    (before : List Char) (fuel : Nat) :
    pieces (p.length + fuel) before (p ++ rest) = pieces fuel (p.reverse ++ before) rest := by
  induction p generalizing before with
  | nil => simp
  | cons c p ih =>
    obtain ⟨⟨hbracket, hslash⟩, hp⟩ := List.forall_mem_cons.mp hp
    have hstep : pieces (p.length + fuel + 1) before (c :: (p ++ rest)) =
        pieces (p.length + fuel) (c :: before) (p ++ rest) := by
      rw [pieces, List.dropWhile_cons_of_neg (by simpa using hslash)]
      split
      next heq => exact absurd (List.cons.inj heq).1 hbracket
      next => rfl
    rw [List.length_cons, Nat.add_right_comm, List.cons_append, hstep, ih hp, List.reverse_cons,
      List.append_assoc, List.singleton_append]

theorem pieces_opening (hw : IsColor w) (before after : List Char) (fuel : Nat) :
    pieces (fuel + 1) before ('[' :: w ++ ']' :: after) =
      .plain before.reverse :: .plain [] :: .tag (opening w) :: pieces fuel [] after := by
  obtain ⟨htag, hopening⟩ := hw.tag?_opening after
  have hbare : ('[' :: w ++ ']' :: after).dropWhile (· == '\\') = '[' :: (w ++ ']' :: after) := rfl
  simp only [List.cons_append] at hbare
  rw [List.cons_append, pieces, hbare]
  simp only [htag, List.takeWhile_cons, show ('[' == '\\') = false from rfl]
  simp [tagPieces, hopening]

/-- What stands before the first bracket tells what stands behind it. -/
theorem behind_bracket {a b x y : List Char} (ha : '[' ∉ a) (hb : '[' ∉ b)
    (h : a ++ '[' :: x = b ++ '[' :: y) : x = y := by
  have hdrop : ∀ {u : List Char} (v : List Char), '[' ∉ u →
      (u ++ '[' :: v).dropWhile (· != '[') = '[' :: v := by
    intro u v hu
    rw [List.dropWhile_append_of_pos fun c hc => by simpa using fun heq : c = '[' => hu (heq ▸ hc)]
    rfl
  have := congrArg (List.dropWhile (· != '[')) h
  rw [hdrop x ha, hdrop y hb] at this
  exact (List.cons.inj this).2

theorem tags_pieces_closing (hw : IsColor w) {m : List Char} (hm : '[' ∉ m) :
    (tags (pieces fuel before (m ++ '[' :: ('/' :: w ++ [']'])))).Sublist [closing w] := by
  obtain ⟨htag, hclosing⟩ := hw.tag?_closing []
  induction fuel generalizing m before with
  | zero => exact List.nil_sublist _
  | succ fuel ih =>
    obtain ⟨c, rest, hcs⟩ := List.exists_cons_of_ne_nil
      (List.append_ne_nil_of_right_ne_nil m (List.cons_ne_nil '[' ('/' :: w ++ [']'])))
    rw [hcs, pieces]
    split
    next body hbody =>
      -- The bracket behind the backslashes is that of the closing tag.
      have hslashes : '[' ∉ (c :: rest).takeWhile (· == '\\') := fun hmem => by
        simpa using List.all_eq_true.mp List.all_takeWhile _ hmem
      have hsplit := List.takeWhile_append_dropWhile (p := (· == '\\')) (l := c :: rest)
      rw [hbody, ← hcs] at hsplit
      cases behind_bracket (hcs ▸ hslashes) hm hsplit
      rw [htag]
      simp only [tagPieces]
      split
      next => simp [tags_pieces_nil]
      next => simp [tags_pieces_nil, hclosing]
    next hplain =>
      cases m with
      | nil =>
        cases hcs
        exact absurd rfl (hplain _)
      | cons d m =>
        cases hcs
        exact ih (fun hmem => hm (List.mem_cons_of_mem _ hmem))

-- ---------------------------------------------------------------------------
-- Canvases
-- ---------------------------------------------------------------------------

namespace Canvas

theorem add_untagged {v : Canvas} (h : tags ps = []) : ∃ v', ps.foldlM add v = .ok v' ∧
    v'.openTags = v.openTags ∧ v'.closed = v.closed := by
  induction ps generalizing v with
  | nil => exact ⟨v, rfl, rfl, rfl⟩
  | cons piece ps ih =>
    cases piece with
    | plain cs =>
      obtain ⟨v', hv', hopen, hclosed⟩ := ih (v := v.write cs) h
      exact ⟨v', hv', hopen, hclosed⟩
    | tag t => cases h

theorem add_opening (hw : IsColor w) (v : Canvas) : v.add (.tag (opening w)) =
    .ok { v with openTags := (opening w, v.shown.length) :: v.openTags } := by
  have hopens : ((opening w).name.head? == some '/') = false := by
    rcases hw with rfl | rfl | rfl <;> decide
  rw [add, if_neg (by simp [hopens]), openTag, show (opening w).name = w from rfl, hw.normalForm]
  rfl

theorem closeTag_color (hw : IsColor w) {v : Canvas} (hv : v.openTags = [(opening w, n)]) :
    v.closeTag (closing w) = .ok { v.finish (opening w, n) with openTags := [] } := by
  have hclosed : closedBy (closing w) [(opening w, n)] = .ok ((opening w, n), []) := by
    have hname : trimChars ((closing w).name.drop 1) = w := by
      rcases hw with rfl | rfl | rfl <;> decide
    obtain ⟨c, cs, rfl⟩ := List.exists_cons_of_ne_nil (l := w)
      (by rcases hw with rfl | rfl | rfl <;> decide)
    unfold closedBy
    rw [hname]
    have htake : takeTag (c :: cs) [(opening (c :: cs), n)] = some ((opening (c :: cs), n), []) :=
      if_pos rfl
    simp only [hw.normalForm, htake]
    rfl
  rw [closeTag, hv, hclosed]
  rcases hw with rfl | rfl | rfl <;> rfl

structure OnlyColor (w : List Char) (v : Canvas) : Prop where
  openTags : ∀ t ∈ v.openTags, t.1 = opening w
  closed : ∀ t ∈ v.closed, t.1 = opening w

theorem add_closing (hw : IsColor w) {v : Canvas} (hv : v.openTags = [(opening w, n)])
    (hclosed : v.closed = []) (h : (tags ps).Sublist [closing w]) :
    ∃ v', ps.foldlM add v = .ok v' ∧ v'.OnlyColor w := by
  induction ps generalizing v with
  | nil =>
    refine ⟨v, rfl, ?_, ?_⟩
    · rw [hv]
      simp
    · rw [hclosed]
      simp
  | cons piece ps ih =>
    cases piece with
    | plain cs => exact ih (v := v.write cs) hv hclosed h
    | tag t =>
      have hlast : t = closing w ∧ tags ps = [] := by
        have hnone : tags ps = [] := by simpa using h.length_le
        rw [tags_tag, hnone] at h
        exact ⟨by simpa using h, hnone⟩
      obtain ⟨rfl, hrest⟩ := hlast
      obtain ⟨v', hv', hopen', hclosed'⟩ :=
        add_untagged (v := { v.finish (opening w, n) with openTags := [] }) hrest
      refine ⟨v', ?_, ?_, ?_⟩
      · rw [List.foldlM_cons, show v.add (.tag (closing w)) = v.closeTag (closing w) from rfl,
          closeTag_color hw hv]
        exact hv'
      · rw [hopen']
        simp
      · rw [hclosed']
        simp [finish, hclosed]

theorem OnlyColor.finishAll {v : Canvas} (h : v.OnlyColor w) :
    ∀ t ∈ v.finishAll.closed, t.1 = opening w := by
  have hfold : ∀ (l : List OpenTag) (u : Canvas), (∀ t ∈ l, t.1 = opening w) →
      (∀ t ∈ u.closed, t.1 = opening w) → ∀ t ∈ (l.foldl finish u).closed, t.1 = opening w := by
    intro l
    induction l with
    | nil => exact fun u _ hu => hu
    | cons t l ih =>
      intro u hl hu
      obtain ⟨ht, hl⟩ := List.forall_mem_cons.mp hl
      exact ih (u.finish t) hl (List.forall_mem_cons.mpr ⟨ht, hu⟩)
  exact hfold v.openTags { v with openTags := [] } h.openTags h.closed

theorem checkStyle_color (hw : IsColor w) (v : Canvas) {t : Tag × List Char}
    (ht : t.1 = opening w) : v.checkStyle t = .ok () := by
  unfold checkStyle
  split
  next => rfl
  next => rw [ht, show (opening w).styleText = w from rfl, hw.normalForm]

end Canvas

-- ---------------------------------------------------------------------------
-- Texts
-- ---------------------------------------------------------------------------

theorem plain_bare {text : String} (h : '[' ∉ text.toList) : ∃ shown, plain text = .ok shown := by
  rw [plain, if_neg (by simpa using h)]
  exact ⟨_, rfl⟩

theorem forM_ok {α : Type} {f : α → Except Foreign Unit} {l : List α}
    (h : ∀ a ∈ l, f a = .ok ()) : l.forM f = .ok () := by
  induction l with
  | nil => rfl
  | cons a l ih =>
    obtain ⟨ha, hl⟩ := List.forall_mem_cons.mp h
    rw [show (a :: l).forM f = (do f a; l.forM f) from rfl, ha]
    exact ih hl

theorem foldlM_opening (hw : IsColor w) {p : List Char} (hp : ∀ c ∈ p, c ≠ '[' ∧ c ≠ '\\')
    (tail : List Char) (fuel : Nat) :
    ∃ v : Canvas, v.openTags = [(opening w, v.shown.length)] ∧ v.closed = [] ∧
      (pieces (p.length + (fuel + 1)) [] (p ++ ('[' :: w ++ ']' :: tail))).foldlM Canvas.add {} =
        (pieces fuel [] tail).foldlM Canvas.add v := by
  let before : Canvas := (Canvas.write {} p).write []
  refine ⟨{ before with openTags := [(opening w, before.shown.length)] }, rfl, rfl, ?_⟩
  rw [pieces_skip hp, pieces_opening hw, List.append_nil, List.reverse_reverse]
  calc List.foldlM Canvas.add {} (.plain p :: .plain [] :: .tag (opening w) :: _)
    _ = List.foldlM Canvas.add before (.tag (opening w) :: pieces fuel [] tail) := rfl
    _ = _ := by
      rw [List.foldlM_cons, Canvas.add_opening hw before]
      rfl

/-- A text in a colour behind a plain beginning can be printed. -/
theorem plain_colored (hw : IsColor w) {p m : List Char} (hp : ∀ c ∈ p, c ≠ '[' ∧ c ≠ '\\')
    (hm : '[' ∉ m) {text : String}
    (htext : text.toList = p ++ ('[' :: w ++ ']' :: (m ++ '[' :: ('/' :: w ++ [']'])))) :
    ∃ shown, plain text = .ok shown := by
  have hfuel : text.toList.length + 1 = p.length +
      (('[' :: w ++ ']' :: (m ++ '[' :: ('/' :: w ++ [']']))).length + 1) := by
    rw [htext, List.length_append, Nat.add_assoc]
  have hbracket : text.toList.contains '[' = true := by
    rw [htext]
    simp
  obtain ⟨u, hopen, hclosed, hfold⟩ := foldlM_opening hw hp (m ++ '[' :: ('/' :: w ++ [']'])) _
  obtain ⟨v, hv, honly⟩ := Canvas.add_closing hw hopen hclosed (tags_pieces_closing hw hm)
  have hstyles : v.finishAll.closed.forM v.finishAll.checkStyle = .ok () :=
    forM_ok fun t ht => Canvas.checkStyle_color hw _ (honly.finishAll t ht)
  rw [plain, if_pos hbracket, hfuel, htext, hfold, hv]
  exact ⟨_, bind_ok.mpr ⟨v, rfl, bind_ok.mpr ⟨(), hstyles, rfl⟩⟩⟩

end DependencyGate.Console.Markup
