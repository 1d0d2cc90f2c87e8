import ClosedShape.Proofs.MarkupRendering

/-!
# What markup shows

Escaped text is shown as it is but for two things: a backslash right before a bracket that opens no
tag is lost, and the number of backslashes at the end depends on what follows.  Text that goes into
markup unescaped is never shown longer than it is, and is shown as it is only if it has no tag and
loses no backslash.
-/

namespace ClosedShape.Markup

variable {pending depth : Nat} {c : CodePoint} {chars name text suffix rest shown : Text}

/-! ## Texts -/

/-- A backslash stands right before a bracket only where the bracket opens a tag. -/
def KeepsBackslashes (text : Text) : Prop :=
  ∀ rest, .char '\\' :: .char '[' :: rest <:+ text → opensTag rest = true

/-- No bracket of a text opens a tag. -/
def HasNoTag (text : Text) : Prop :=
  ∀ rest, .char '[' :: rest <:+ text → opensTag rest = false

instance (text : Text) : Decidable (KeepsBackslashes text) :=
  decidable_of_iff
    (text.tails.all fun
      | .char '\\' :: .char '[' :: rest => opensTag rest
      | _ => true)
    (by
      rw [List.all_eq_true]
      constructor
      · intro all rest isSuffix
        exact all _ ((List.mem_tails _ _).mpr isSuffix)
      · intro keeps ending member
        split
        · exact keeps _ ((List.mem_tails _ _).mp member)
        · rfl)

instance (text : Text) : Decidable (HasNoTag text) :=
  decidable_of_iff
    (text.tails.all fun
      | .char '[' :: rest => !opensTag rest
      | _ => true)
    (by
      rw [List.all_eq_true]
      constructor
      · intro all rest isSuffix
        simpa using all _ ((List.mem_tails _ _).mpr isSuffix)
      · intro noTag ending member
        split
        · simpa using noTag _ ((List.mem_tails _ _).mp member)
        · rfl)

/-- The number of backslashes at the end of a text, with `pending` of them right before it. -/
def finalBackslashes (pending : Nat) : Text → Nat
  | [] => pending
  | c :: rest =>
      if c = .char '\\' then finalBackslashes (pending + 1) rest else finalBackslashes 0 rest

/-- What is shown of a text when it is escaped, with `pending` backslashes right before it and up to
those at its end. -/
def shownFrom (pending : Nat) : Text → Text
  | [] => []
  | c :: rest =>
      if c = .char '\\' then shownFrom (pending + 1) rest
      else if c = .char '[' ∧ opensTag rest = false then
        backslashes (pending - 1) ++ c :: shownFrom 0 rest
      else backslashes pending ++ c :: shownFrom 0 rest

@[simp]
theorem backslashes_zero : backslashes 0 = [] :=
  rfl

theorem backslashes_succ_append (count : Nat) (chars : Text) :
    backslashes (count + 1) ++ chars = backslashes count ++ .char '\\' :: chars := by
  rw [backslashes, List.replicate_succ', List.append_assoc]
  rfl

theorem KeepsBackslashes.of_suffix (keeps : KeepsBackslashes text) (ends : rest <:+ text) :
    KeepsBackslashes rest :=
  fun more isSuffix => keeps more (isSuffix.trans ends)

theorem keepsBackslashes_cons (noBackslash : c ≠ .char '\\') :
    KeepsBackslashes (c :: rest) ↔ KeepsBackslashes rest := by
  refine ⟨fun keeps => keeps.of_suffix (List.suffix_cons c rest), fun keeps more isSuffix => ?_⟩
  rcases List.suffix_cons_iff.mp isSuffix with same | inside
  · exact absurd (List.cons.inj same).1.symm noBackslash
  · exact keeps more inside

/-- Backslashes are kept before a character unless it is a bracket that opens no tag. -/
theorem keepsBackslashes_append (noBackslash : c ≠ .char '\\') :
    KeepsBackslashes (backslashes pending ++ c :: rest) ↔
      KeepsBackslashes rest ∧ (c = .char '[' → pending ≠ 0 → opensTag rest = true) := by
  constructor
  · intro keeps
    have after : c :: rest <:+ backslashes pending ++ c :: rest := List.suffix_append _ _
    refine ⟨(keepsBackslashes_cons noBackslash).mp (keeps.of_suffix after), ?_⟩
    rintro rfl some
    obtain ⟨fewer, rfl⟩ := Nat.exists_eq_succ_of_ne_zero some
    refine keeps rest ?_
    rw [backslashes_succ_append]
    exact List.suffix_append _ _
  · rintro ⟨keeps, before⟩
    induction pending with
    | zero => exact (keepsBackslashes_cons noBackslash).mpr keeps
    | succ fewer ih =>
        intro more isSuffix
        rcases List.suffix_cons_iff.mp isSuffix with same | inside
        · have same := (List.cons.inj same).2
          cases fewer with
          | zero =>
              obtain ⟨rfl, rfl⟩ := List.cons.inj same
              exact before rfl (by simp)
          | succ fewer => cases (List.cons.inj same).1
        · exact ih (fun bracket some => before bracket (by simp)) more inside

/-! ## Escaped text -/

/-- A text whose backslashes are kept is shown as it is. -/
theorem shownFrom_append (pending : Nat) (keeps : KeepsBackslashes (backslashes pending ++ text)) :
    shownFrom pending text ++ backslashes (finalBackslashes pending text) =
      backslashes pending ++ text := by
  induction text generalizing pending with
  | nil => simp [shownFrom, finalBackslashes]
  | cons c rest ih =>
      rw [shownFrom, finalBackslashes]
      by_cases backslash : c = .char '\\'
      · subst backslash
        rw [if_pos rfl, if_pos rfl, ← backslashes_succ_append]
        rw [← backslashes_succ_append] at keeps
        exact ih (pending + 1) keeps
      · obtain ⟨keepsRest, before⟩ := (keepsBackslashes_append backslash).mp keeps
        rw [if_neg backslash, if_neg backslash]
        split
        · next loses =>
            have none : pending = 0 := by
              by_contra some
              cases (before loses.1 some).symm.trans loses.2
            subst none
            simpa using ih 0 keepsRest
        · simpa using ih 0 keepsRest

theorem keepsBackslashes_backslashes (count : Nat) : KeepsBackslashes (backslashes count) := by
  intro rest isSuffix
  have member : .char '[' ∈ backslashes count := isSuffix.subset (by simp)
  cases List.eq_of_mem_replicate member

/-- Where a backslash is lost, a bracket is shown in its place. -/
theorem exists_shownFrom_differs (pending : Nat)
    (loses : ¬ KeepsBackslashes (backslashes pending ++ text)) :
    ∃ common others more, shownFrom pending text = common ++ .char '[' :: others ∧
      backslashes pending ++ text = common ++ .char '\\' :: more := by
  induction text generalizing pending with
  | nil =>
      rw [List.append_nil] at loses
      exact absurd (keepsBackslashes_backslashes pending) loses
  | cons c rest ih =>
      rw [shownFrom]
      by_cases backslash : c = .char '\\'
      · subst backslash
        rw [if_pos rfl, ← backslashes_succ_append]
        rw [← backslashes_succ_append] at loses
        exact ih (pending + 1) loses
      · rw [if_neg backslash]
        rw [keepsBackslashes_append backslash] at loses
        have later (losesRest : ¬ KeepsBackslashes rest) (before : Text) :
            ∃ common others more, before ++ c :: shownFrom 0 rest = common ++ .char '[' :: others ∧
              before ++ c :: rest = common ++ .char '\\' :: more := by
          obtain ⟨common, others, more, shows, holds⟩ := ih 0 losesRest
          refine ⟨before ++ c :: common, others, more, ?_, ?_⟩
          · simp [shows]
          · simpa using holds
        split
        · next noTag =>
            obtain ⟨rfl, noTag⟩ := noTag
            cases pending with
            | zero =>
                refine later (fun keeps => loses ⟨keeps, fun _ some => absurd rfl some⟩) []
            | succ fewer =>
                refine ⟨backslashes fewer, shownFrom 0 rest, .char '[' :: rest, rfl, ?_⟩
                rw [backslashes_succ_append]
        · next noLoss =>
            refine later (fun keeps => loses ⟨keeps, fun bracket _ => ?_⟩) (backslashes pending)
            by_contra closed
            exact noLoss ⟨bracket, by simpa using closed⟩

theorem exists_eq_append_backslashes (pending : Nat) (text : Text) :
    ∃ front, escapeFrom pending text = front ++ backslashes (finalBackslashes pending text) ∧
      front.getLast? ≠ some (.char '\\') := by
  induction text generalizing pending with
  | nil => exact ⟨[], rfl, by simp⟩
  | cons c rest ih =>
      rw [escapeFrom, finalBackslashes]
      by_cases backslash : c = .char '\\'
      · rw [if_pos backslash, if_pos backslash]
        exact ih (pending + 1)
      · obtain ⟨front, escaped, ends⟩ := ih 0
        have lasts : (c :: front).getLast? ≠ some (.char '\\') := by
          cases front with
          | nil => simpa using backslash
          | cons => simpa using ends
        rw [if_neg backslash, if_neg backslash, escaped]
        split
        · refine ⟨backslashes (2 * pending + 1) ++ c :: front, by simp, ?_⟩
          rwa [List.getLast?_append_of_ne_nil _ (List.cons_ne_nil _ _)]
        · refine ⟨backslashes pending ++ c :: front, by simp, ?_⟩
          rwa [List.getLast?_append_of_ne_nil _ (List.cons_ne_nil _ _)]

theorem endsWithOneBackslash_append {front : Text} (ends : front.getLast? ≠ some (.char '\\'))
    (count : Nat) : endsWithOneBackslash (front ++ backslashes count) = (count == 1) := by
  rw [← List.head?_reverse] at ends
  rw [endsWithOneBackslash, List.reverse_append, backslashes, List.reverse_replicate]
  match count with
  | 0 => cases reversed : front.reverse <;> simp_all
  | 1 => cases reversed : front.reverse <;> simp_all
  | count + 2 => simp [List.replicate_succ]

/-- The number of backslashes between what is shown of an escaped text and what follows it. -/
def closingBackslashes (text : Text) : Nat :=
  if finalBackslashes 0 text = 1 then 2 else finalBackslashes 0 text

theorem escape_eq_append (text : Text) :
    escape text =
      escapeFrom 0 text ++ if finalBackslashes 0 text = 1 then [.char '\\'] else [] := by
  obtain ⟨front, escaped, ends⟩ := exists_eq_append_backslashes 0 text
  rw [escape, escaped, endsWithOneBackslash_append ends]
  split
  · next one => rw [if_pos (beq_iff_eq.mp one)]
  · next more => rw [if_neg (by simpa using more), List.append_nil]

/-! ## Rendering step by step -/

/-- Where rendering is: so many backslashes have been read last, so many styles are open, and some
markup is left. -/
structure Point where
  pending : Nat
  depth : Nat
  rest : Text

/-- Rendering shows some text between two points. -/
def Shows (here : Point) (shown : Text) (there : Point) : Prop :=
  ∀ position opened, opened.length = here.depth → ∃ next others, others.length = there.depth ∧
    renderFrom position here.pending opened here.rest =
      (renderFrom next there.pending others there.rest).map fun more => shown ++ more

theorem Shows.trans {first second third : Point} {others : Text}
    (one : Shows first shown second) (two : Shows second others third) :
    Shows first (shown ++ others) third := by
  intro position opened enough
  obtain ⟨middle, between, enoughBetween, reached⟩ := one position opened enough
  obtain ⟨next, after, enoughAfter, reachedNext⟩ := two middle between enoughBetween
  refine ⟨next, after, enoughAfter, ?_⟩
  rw [reached, reachedNext]
  cases renderFrom next third.pending after third.rest with
  | error fault => rfl
  | ok more => simp [Except.map]

/-- A character that is no bracket is shown, and the backslashes before it. -/
theorem shows_char (noBackslash : c ≠ .char '\\') (noBracket : c ≠ .char '[') :
    Shows ⟨pending, depth, c :: rest⟩ (backslashes pending ++ [c]) ⟨0, depth, rest⟩ := by
  intro position opened enough
  refine ⟨position + 1, opened, enough, ?_⟩
  dsimp only
  rw [renderFrom, if_neg noBackslash, if_neg fun opens => noBracket opens.1, if_neg noBracket]
  cases renderFrom (position + 1) 0 opened rest with
  | error fault => rfl
  | ok more => simp [bind, Except.bind, Except.map, pure, Except.pure]

/-- So is a bracket that opens no tag, but one of the backslashes is lost. -/
theorem shows_bracket (noTag : opensTag rest = false) :
    Shows ⟨pending, depth, .char '[' :: rest⟩ (backslashes (pending - 1) ++ [.char '['])
      ⟨0, depth, rest⟩ := by
  intro position opened enough
  refine ⟨position + 1, opened, enough, ?_⟩
  dsimp only
  rw [renderFrom, if_neg (by decide), if_neg (by simp [noTag]), if_pos rfl]
  cases renderFrom (position + 1) 0 opened rest with
  | error fault => rfl
  | ok more => simp [bind, Except.bind, Except.map, pure, Except.pure]

/-- After an odd number of backslashes the bracket of a tag is shown, and half of them. -/
theorem shows_escaped_bracket (opens : opensTag rest = true) (odd : pending % 2 = 1) :
    Shows ⟨pending, depth, .char '[' :: rest⟩ (backslashes (pending / 2) ++ [.char '['])
      ⟨0, depth, rest⟩ := by
  intro position opened enough
  refine ⟨position + 1, opened, enough, ?_⟩
  dsimp only
  rw [renderFrom, if_neg (by decide), if_pos ⟨rfl, opens⟩]
  dsimp only
  rw [if_pos odd]
  cases renderFrom (position + 1) 0 opened rest with
  | error fault => rfl
  | ok more => simp [bind, Except.bind, Except.map, pure, Except.pure]

theorem shows_backslashes (count : Nat) :
    Shows ⟨pending, depth, backslashes count ++ rest⟩ [] ⟨pending + count, depth, rest⟩ := by
  intro position opened enough
  refine ⟨position + count, opened, enough, ?_⟩
  dsimp only
  rw [renderFrom_backslashes]
  cases renderFrom (position + count) (pending + count) opened rest <;> rfl

theorem shows_first_backslashes (count : Nat) :
    Shows ⟨0, depth, backslashes count ++ rest⟩ [] ⟨count, depth, rest⟩ := by
  have shows : Shows ⟨0, depth, backslashes count ++ rest⟩ [] ⟨0 + count, depth, rest⟩ :=
    shows_backslashes count
  rwa [Nat.zero_add] at shows

theorem shows_plain (plain : Plain chars) :
    Shows ⟨0, depth, chars ++ rest⟩ chars ⟨0, depth, rest⟩ := by
  induction chars with
  | nil => exact shows_first_backslashes 0
  | cons c chars ih =>
      obtain ⟨⟨noBackslash, noBracket⟩, others⟩ := List.forall_mem_cons.mp plain
      exact (shows_char noBackslash noBracket).trans (ih others)

def isLower : CodePoint → Bool
  | .char c => c.isLower
  | .surrogate _ => false

/-- The name of a style starts with a letter and has no brackets. -/
def IsStyleName (name : Text) : Prop :=
  name.head?.any isLower = true ∧ .char '[' ∉ name ∧ .char ']' ∉ name

instance (name : Text) : Decidable (IsStyleName name) :=
  inferInstanceAs (Decidable (_ ∧ _ ∧ _))

theorem shows_open (isName : IsStyleName name) :
    Shows ⟨0, depth, .char '[' :: (name ++ .char ']' :: rest)⟩ [] ⟨0, depth + 1, rest⟩ := by
  obtain ⟨letter, opens, closes⟩ := isName
  match name, letter with
  | .char first :: chars, letter =>
      intro position opened enough
      dsimp only
      rw [renderFrom_open letter opens closes]
      refine ⟨position + 1 + (.char first :: chars).length + 1,
        tagName (.char first :: chars ++ .char ']' :: rest) :: opened, congrArg Nat.succ enough, ?_⟩
      cases renderFrom _ 0 (_ :: opened) rest <;> rfl

/-- After an even number of backslashes the last style is closed, and half of them are shown. -/
theorem shows_close (even : pending % 2 = 0) :
    Shows ⟨pending, depth + 1, .char '[' :: .char '/' :: .char ']' :: rest⟩
      (backslashes (pending / 2))
      ⟨0, depth, rest⟩ := by
  intro position opened enough
  obtain ⟨style, others, rfl⟩ := List.exists_cons_of_length_eq_add_one enough
  dsimp only
  rw [renderFrom_close, if_neg (by omega)]
  exact ⟨_, others, Nat.succ.inj enough, rfl⟩

/-- Escaped text is shown before anything that closes no tag by itself. -/
theorem shows_escapeFrom (depth : Nat) (closes : closesTag suffix = false) (pending : Nat)
    (text : Text) :
    Shows ⟨0, depth, escapeFrom pending text ++ suffix⟩ (shownFrom pending text)
      ⟨finalBackslashes pending text, depth, suffix⟩ := by
  induction text generalizing pending with
  | nil => exact shows_first_backslashes pending
  | cons c rest ih =>
      rw [escapeFrom, finalBackslashes, shownFrom]
      by_cases backslash : c = .char '\\'
      · rw [if_pos backslash, if_pos backslash, if_pos backslash]
        exact ih (pending + 1)
      · rw [if_neg backslash, if_neg backslash, if_neg backslash]
        have isTag := opensTag_escapeFrom closes rest
        split
        · next opens =>
            obtain ⟨rfl, opens⟩ := opens
            rw [if_neg (by simp [opens]), List.append_assoc, List.cons_append]
            have half : (2 * pending + 1) / 2 = pending := by omega
            have odd : (2 * pending + 1) % 2 = 1 := by omega
            have escaped := (shows_escaped_bracket (isTag.trans opens) odd).trans (ih 0)
            rw [half] at escaped
            simpa using (shows_first_backslashes (2 * pending + 1)).trans escaped
        · next noTag =>
            rw [List.append_assoc, List.cons_append]
            have before {more : Text} :
                Shows ⟨0, depth, backslashes pending ++ c :: more⟩ [] ⟨pending, depth, c :: more⟩ :=
              shows_first_backslashes pending
            split
            · next opens =>
                obtain ⟨rfl, opens⟩ := opens
                simpa using (before.trans (shows_bracket (isTag.trans opens))).trans (ih 0)
            · next opens =>
                have noBracket : c ≠ .char '[' := by
                  rintro rfl
                  simp_all
                simpa using (before.trans (shows_char backslash noBracket)).trans (ih 0)

/-- So is a text with all its backslashes escaped. -/
theorem shows_escape (depth : Nat) (closes : closesTag suffix = false) (text : Text) :
    Shows ⟨0, depth, escape text ++ suffix⟩ (shownFrom 0 text)
      ⟨closingBackslashes text, depth, suffix⟩ := by
  rw [escape_eq_append, List.append_assoc, closingBackslashes]
  split
  · next one =>
      have closed : closesTag (.char '\\' :: suffix) = false := closes
      have before := shows_escapeFrom depth closed 0 text
      rw [one] at before
      simpa using before.trans (shows_backslashes 1)
  · exact shows_escapeFrom depth closes 0 text

/-- What is shown up to the end of some markup is what it renders to. -/
theorem Shows.render_eq {markup : Text} (shows : Shows ⟨0, 0, markup⟩ shown ⟨pending, depth, []⟩) :
    render markup = .ok (shown ++ backslashes pending) := by
  obtain ⟨next, opened, _, rendered⟩ := shows 0 [] rfl
  dsimp only at rendered
  rw [render, rendered, renderFrom]
  rfl

/-! ## Text that is not escaped -/

theorem HasNoTag.of_suffix (noTag : HasNoTag text) (ends : rest <:+ text) : HasNoTag rest :=
  fun more isSuffix => noTag more (isSuffix.trans ends)

theorem hasNoTag_cons :
    HasNoTag (c :: rest) ↔ (c = .char '[' → opensTag rest = false) ∧ HasNoTag rest := by
  constructor
  · intro noTag
    refine ⟨?_, noTag.of_suffix (List.suffix_cons c rest)⟩
    rintro rfl
    exact noTag rest List.suffix_rfl
  · rintro ⟨first, noTag⟩ more isSuffix
    rcases List.suffix_cons_iff.mp isSuffix with same | inside
    · obtain ⟨rfl, rfl⟩ := List.cons.inj same
      exact first rfl
    · exact noTag more inside

/-- Without tags there is nothing to escape. -/
theorem escapeFrom_of_hasNoTag (noTag : HasNoTag text) (pending : Nat) :
    escapeFrom pending text = backslashes pending ++ text := by
  induction text generalizing pending with
  | nil => simp [escapeFrom]
  | cons c rest ih =>
      obtain ⟨first, others⟩ := hasNoTag_cons.mp noTag
      rw [escapeFrom]
      by_cases backslash : c = .char '\\'
      · rw [if_pos backslash, ih others, backslashes_succ_append, backslash]
      · have noBracket : ¬ (c = .char '[' ∧ opensTag rest = true) := by
          rintro ⟨bracket, opens⟩
          cases (first bracket).symm.trans opens
        rw [if_neg backslash, if_neg noBracket, ih others]
        rfl

theorem closesTag_append_of_not (closes : closesTag suffix = false) (text : Text) :
    closesTag (text ++ suffix) = closesTag text := by
  induction text with
  | nil => exact closes
  | cons c rest ih => rw [List.cons_append, closesTag_cons, closesTag_cons, ih]

theorem opensTag_append_of_not (closes : closesTag suffix = false) (text : Text) :
    opensTag (text ++ suffix) = opensTag text := by
  cases text with
  | nil => exact opensTag_of_closesTag closes
  | cons c rest =>
      cases c with
      | char c => rw [List.cons_append, opensTag, opensTag, closesTag_append_of_not closes]
      | surrogate => rfl

/-- A tag ends at its first closing bracket. -/
theorem exists_tag_of_opensTag (opens : opensTag text = true) :
    ∃ inside more, text = inside ++ .char ']' :: more ∧ .char ']' ∉ inside := by
  have closed : closesTag text = true := by
    by_contra closes
    rw [opensTag_of_closesTag (by simpa using closes)] at opens
    cases opens
  refine List.eq_append_cons_of_mem ?_
  clear opens
  induction text with
  | nil => cases closed
  | cons c rest ih =>
      rw [closesTag_cons, Bool.or_eq_true, Bool.and_eq_true] at closed
      rcases closed with bracket | ⟨_, later⟩
      · rw [beq_iff_eq.mp bracket]
        exact List.mem_cons_self
      · exact List.mem_cons_of_mem _ (ih later)

theorem Shows.exists_of_ok {here there : Point} {position : Nat} {opened : List Text}
    (shows : Shows here shown there) (enough : opened.length = here.depth)
    (rendered : renderFrom position here.pending opened here.rest = .ok text) :
    ∃ next others more, others.length = there.depth ∧
      renderFrom next there.pending others there.rest = .ok more ∧ text = shown ++ more := by
  obtain ⟨next, others, reaches, reached⟩ := shows position opened enough
  rw [rendered] at reached
  cases ended : renderFrom next there.pending others there.rest with
  | error fault =>
      rw [ended] at reached
      cases reached
  | ok more =>
      rw [ended] at reached
      exact ⟨next, others, more, reaches, ended, Except.ok.inj reached⟩

theorem sublist_of_fewer {fewer : Nat} {kept : Text} (few : fewer ≤ pending)
    (isSublist : kept.Sublist rest) :
    (backslashes fewer ++ c :: kept).Sublist (backslashes pending ++ c :: rest) ∧
      (backslashes fewer ++ c :: kept = backslashes pending ++ c :: rest →
        fewer = pending ∧ kept = rest) := by
  refine ⟨((List.replicate_sublist_replicate _).mpr few).append (isSublist.cons_cons c), ?_⟩
  intro same
  have lengths := congrArg List.length same
  have shorter := isSublist.length_le
  simp only [backslashes, List.length_append, List.length_replicate, List.length_cons] at lengths
  exact ⟨by omega, isSublist.eq_of_length (by omega)⟩

/-- A character that is shown, with the backslashes before it that are kept. -/
theorem exists_shows_cons (depth : Nat) (backslash : c ≠ .char '\\')
    (shown : c = .char '[' → opensTag rest = true → pending % 2 = 1) :
    ∃ fewer ≤ pending,
      Shows ⟨pending, depth, c :: rest⟩ (backslashes fewer ++ [c]) ⟨0, depth, rest⟩ ∧
        (c = .char '[' → fewer = pending → opensTag rest = false ∧ pending = 0) := by
  by_cases bracket : c = .char '['
  · subst bracket
    cases opens : opensTag rest with
    | true =>
        have odd := shown rfl opens
        exact ⟨pending / 2, Nat.div_le_self _ _, shows_escaped_bracket opens odd,
          fun _ same => by omega⟩
    | false =>
        exact ⟨pending - 1, Nat.sub_le _ _, shows_bracket opens, fun _ same => ⟨rfl, by omega⟩⟩
  · exact ⟨pending, le_rfl, shows_char backslash bracket, fun isBracket => absurd isBracket bracket⟩

/-- A tag that is not escaped is left out, with half of the backslashes before it. -/
theorem exists_renderFrom_behind_tag {position : Nat} {opened : List Text}
    {inside more : Text} (first : .char ']' ∉ inside)
    (opens : opensTag (inside ++ .char ']' :: more) = true) (even : pending % 2 = 0)
    (rendered : renderFrom position pending opened
      (.char '[' :: (inside ++ .char ']' :: more)) = .ok shown) :
    ∃ next remaining later, renderFrom next 0 remaining more = .ok later ∧
      shown = backslashes (pending / 2) ++ later := by
  rw [renderFrom, if_neg (by decide), if_pos ⟨rfl, opens⟩] at rendered
  dsimp only at rendered
  rw [if_neg (by omega)] at rendered
  cases applied : applyTag position (inside ++ .char ']' :: more) opened with
  | error fault =>
      rw [applied] at rendered
      cases rendered
  | ok remaining =>
      rw [applied] at rendered
      dsimp only [bind, Except.bind] at rendered
      rw [skipTag_append first] at rendered
      cases renderedLater : renderFrom (position + 1 + inside.length + 1) 0 remaining more with
      | error fault =>
          rw [renderedLater] at rendered
          cases rendered
      | ok later =>
          rw [renderedLater] at rendered
          exact ⟨_, remaining, later, renderedLater, (Except.ok.inj rendered).symm⟩

/-- With a tag at least its bracket is lost. -/
theorem sublist_of_tag {more kept : Text} (pending : Nat) (inside : Text)
    (isSublist : kept.Sublist more) :
    (backslashes (pending / 2) ++ kept).Sublist
        (backslashes pending ++ .char '[' :: (inside ++ .char ']' :: more)) ∧
      backslashes (pending / 2) ++ kept ≠
        backslashes pending ++ .char '[' :: (inside ++ .char ']' :: more) := by
  have half : (backslashes (pending / 2)).Sublist (backslashes pending) :=
    (List.replicate_sublist_replicate _).mpr (Nat.div_le_self _ _)
  have inTag : more.Sublist (.char '[' :: (inside ++ .char ']' :: more)) :=
    (List.suffix_append (.char '[' :: (inside ++ [.char ']'])) more).sublist.trans (by simp)
  refine ⟨half.append (isSublist.trans inTag), fun whole => ?_⟩
  have lengths := congrArg List.length whole
  have shorter := isSublist.length_le
  simp only [backslashes, List.length_append, List.length_replicate, List.length_cons] at lengths
  omega

/-- Text that is not escaped is shown at most as it is, and as it is only if it has no tag and loses
no backslash. -/
theorem exists_kept_of_renderFrom {position : Nat} {opened : List Text} {following : CodePoint}
    (noBackslash : following ≠ .char '\\') (noBracket : following ≠ .char '[')
    (closes : closesTag (following :: suffix) = false)
    (rendered : renderFrom position pending opened (text ++ following :: suffix) = .ok shown) :
    ∃ kept others next after, shown = kept ++ following :: others ∧
      renderFrom next 0 after suffix = .ok others ∧ kept.Sublist (backslashes pending ++ text) ∧
      (kept = backslashes pending ++ text →
        HasNoTag text ∧ KeepsBackslashes (backslashes pending ++ text)) := by
  induction length : text.length using Nat.strong_induction_on
    generalizing text position pending opened shown with
  | _ size ih =>
    cases text with
    | nil =>
        have shows : Shows ⟨pending, opened.length, following :: suffix⟩ _ _ :=
          shows_char noBackslash noBracket
        obtain ⟨next, after, others, _, reached, rfl⟩ := shows.exists_of_ok rfl rendered
        refine ⟨backslashes pending, others, next, after, by simp, reached, by simp, fun _ => ?_⟩
        rw [List.append_nil]
        exact ⟨fun rest isSuffix => by simp at isSuffix, keepsBackslashes_backslashes pending⟩
    | cons c rest =>
        rw [List.length_cons] at length
        rw [List.cons_append] at rendered
        have isTag := opensTag_append_of_not closes rest
        by_cases backslash : c = .char '\\'
        · subst backslash
          rw [renderFrom, if_pos rfl] at rendered
          obtain ⟨kept, others, next, after, same, reached, isSublist, inert⟩ :=
            ih rest.length (by omega) rendered rfl
          rw [backslashes_succ_append] at isSublist inert
          refine ⟨kept, others, next, after, same, reached, isSublist, fun whole => ?_⟩
          obtain ⟨noTag, keeps⟩ := inert whole
          exact ⟨hasNoTag_cons.mpr ⟨fun bracket => absurd bracket (by decide), noTag⟩, keeps⟩
        by_cases tag : c = .char '[' ∧ opensTag rest = true ∧ pending % 2 = 0
        · obtain ⟨rfl, opens, even⟩ := tag
          obtain ⟨inside, more, rfl, first⟩ := exists_tag_of_opensTag opens
          rw [List.append_assoc, List.cons_append] at rendered isTag
          obtain ⟨_, remaining, later, renderedLater, rfl⟩ :=
            exists_renderFrom_behind_tag first (isTag.trans opens) even rendered
          rw [List.length_append, List.length_cons] at length
          obtain ⟨kept, others, next, after, rfl, reached, isSublist, _⟩ :=
            ih more.length (by omega) renderedLater rfl
          rw [backslashes_zero, List.nil_append] at isSublist
          obtain ⟨isSublist, loses⟩ := sublist_of_tag pending inside isSublist
          exact ⟨_, others, next, after, by simp, reached, isSublist, fun whole =>
            absurd whole loses⟩
        · have odd : c = .char '[' → opensTag (rest ++ following :: suffix) = true →
              pending % 2 = 1 := by
            intro bracket opens
            by_contra even
            exact tag ⟨bracket, isTag.symm.trans opens, by omega⟩
          obtain ⟨fewer, few, shows, noLoss⟩ := exists_shows_cons opened.length backslash odd
          obtain ⟨middle, between, later, _, renderedLater, rfl⟩ := shows.exists_of_ok rfl rendered
          obtain ⟨kept, others, next, after, rfl, reached, isSublist, inert⟩ :=
            ih rest.length (by omega) renderedLater rfl
          obtain ⟨isSublist, same⟩ := sublist_of_fewer (c := c) few isSublist
          refine ⟨_, others, next, after, by simp, reached, isSublist, fun whole => ?_⟩
          obtain ⟨rfl, keptWhole⟩ := same whole
          obtain ⟨noTag, keeps⟩ := inert keptWhole
          refine ⟨hasNoTag_cons.mpr ⟨fun bracket => ?_, noTag⟩,
            (keepsBackslashes_append backslash).mpr ⟨keeps, fun bracket some => ?_⟩⟩
          · exact isTag.symm.trans (noLoss bracket rfl).1
          · exact absurd (noLoss bracket rfl).2 some

/-! ## What is shown as it is -/

/-- An escaped text is shown as it is between the tags of a style. -/
def ShownInStyle (text : Text) : Prop :=
  KeepsBackslashes text ∧ finalBackslashes 0 text < 2

/-- An escaped text is shown as it is where no tag follows. -/
def ShownBeforeText (text : Text) : Prop :=
  KeepsBackslashes text ∧ finalBackslashes 0 text ≠ 1

/-- A text is shown as it is though it is not escaped. -/
def ShownUnescaped (text : Text) : Prop :=
  KeepsBackslashes text ∧ HasNoTag text

instance (text : Text) : Decidable (ShownInStyle text) :=
  inferInstanceAs (Decidable (_ ∧ _))

instance (text : Text) : Decidable (ShownBeforeText text) :=
  inferInstanceAs (Decidable (_ ∧ _))

instance (text : Text) : Decidable (ShownUnescaped text) :=
  inferInstanceAs (Decidable (_ ∧ _))

/-- What is shown of an escaped text between the tags of a style. -/
def shownInStyle (text : Text) : Text :=
  shownFrom 0 text ++ backslashes (closingBackslashes text / 2) ++
    if closingBackslashes text % 2 = 1 then [.char '[', .char '/', .char ']'] else []

/-- What is shown of an escaped text where no tag follows. -/
def shownBeforeText (text : Text) : Text :=
  shownFrom 0 text ++ backslashes (closingBackslashes text)

theorem shows_styled (depth : Nat) (isName : IsStyleName name) (text : Text) (rest : Text) :
    ∃ after, Shows
      ⟨0, depth, .char '[' :: (name ++
        .char ']' :: (escape text ++ .char '[' :: .char '/' :: .char ']' :: rest))⟩
      (shownInStyle text) ⟨0, after, rest⟩ := by
  have closes : closesTag (.char '[' :: .char '/' :: .char ']' :: rest) = false := rfl
  have inside := (shows_open isName).trans (shows_escape (depth + 1) closes text)
  rw [shownInStyle]
  split
  · next odd =>
      have asText : Shows ⟨0, depth + 1, .char '/' :: .char ']' :: rest⟩ [.char '/', .char ']']
          ⟨0, depth + 1, rest⟩ :=
        shows_plain (show Plain [.char '/', .char ']'] by decide)
      refine ⟨depth + 1, ?_⟩
      simpa using inside.trans ((shows_escaped_bracket rfl odd).trans asText)
  · next even =>
      refine ⟨depth, ?_⟩
      simpa using inside.trans (shows_close (by omega))

theorem shownFrom_zero_append (keeps : KeepsBackslashes text) :
    shownFrom 0 text ++ backslashes (finalBackslashes 0 text) = text :=
  shownFrom_append 0 keeps

theorem ShownInStyle.shown_eq (shown : ShownInStyle text) : shownInStyle text = text := by
  obtain ⟨keeps, few⟩ := shown
  have whole := shownFrom_zero_append keeps
  rw [shownInStyle, closingBackslashes]
  generalize finalBackslashes 0 text = count at few whole
  match count with
  | 0 => simpa using whole
  | 1 => simpa using whole

theorem ShownBeforeText.shown_eq (shown : ShownBeforeText text) : shownBeforeText text = text := by
  rw [shownBeforeText, closingBackslashes, if_neg shown.2]
  exact shownFrom_zero_append shown.1

theorem not_prefix_of_ne {first second : CodePoint} {common others more : Text}
    (differ : first ≠ second) : ¬ common ++ first :: others <+: common ++ second :: more := by
  rw [List.prefix_append_right_inj, List.cons_prefix_cons]
  exact fun same => differ same.1

theorem not_prefix_shownFrom (loses : ¬ KeepsBackslashes text) (more : Text) :
    ¬ text <+: shownFrom 0 text ++ more := by
  obtain ⟨common, others, after, shows, holds⟩ := exists_shownFrom_differs 0 loses
  rw [backslashes_zero, List.nil_append] at holds
  rw [shows, List.append_assoc, List.cons_append, holds]
  exact not_prefix_of_ne (by decide)

/-- A text that is not shown as it is between tags is not shown at all, whatever follows but a
backslash. -/
theorem shownInStyle_of_starts (more : Text) (following : more.head? ≠ some (.char '\\'))
    (shown : text <+: shownInStyle text ++ more) : ShownInStyle text := by
  rw [shownInStyle, List.append_assoc, List.append_assoc] at shown
  have keeps : KeepsBackslashes text := by
    by_contra loses
    exact not_prefix_shownFrom loses _ shown
  refine ⟨keeps, ?_⟩
  by_contra many
  have count : closingBackslashes text = finalBackslashes 0 text := if_neg (by omega)
  have start : shownFrom 0 text ++ backslashes (finalBackslashes 0 text) <+: text :=
    ⟨[], (List.append_nil _).trans (shownFrom_zero_append keeps)⟩
  have whole := start.trans shown
  rw [List.prefix_append_right_inj, count] at whole
  generalize finalBackslashes 0 text = final at many whole
  obtain ⟨further, split⟩ : ∃ further, final = final / 2 + (further + 1) :=
    ⟨final - final / 2 - 1, by omega⟩
  have halves :
      backslashes final = backslashes (final / 2) ++ .char '\\' :: backslashes further := by
    conv => lhs; rw [split, backslashes, List.replicate_add]
    rfl
  rw [halves, List.prefix_append_right_inj] at whole
  split at whole
  · exact absurd (List.cons_prefix_cons.mp whole).1 (by decide)
  · obtain ⟨others, rfl⟩ := whole
    exact following rfl

theorem shownBeforeText_of_starts (more : Text)
    (shown : text <+: shownBeforeText text ++ more) :
    ShownBeforeText text ∨ shownBeforeText text = text ++ [.char '\\'] := by
  rw [shownBeforeText, List.append_assoc] at shown
  have keeps : KeepsBackslashes text := by
    by_contra loses
    exact not_prefix_shownFrom loses _ shown
  by_cases one : finalBackslashes 0 text = 1
  · have whole := shownFrom_zero_append keeps
    rw [one] at whole
    refine .inr ?_
    calc
      shownBeforeText text = shownFrom 0 text ++ backslashes 1 ++ [.char '\\'] := by
        rw [shownBeforeText, closingBackslashes, if_pos one, List.append_assoc]
        rfl
      _ = text ++ [.char '\\'] := by rw [whole]
  · exact .inl ⟨keeps, one⟩

end ClosedShape.Markup
