import GatewayCompiler.Proofs.PathSpace

/-!
# What the beginnings of paths come to

Conditions are merged one after the other, and each of them takes the slashes at the end of what came
before.  What the beginnings of a list come to can be said at once: they are joined by single slashes
without those that consist of slashes only, and the slashes at the end are those of the last one.  So
it does not matter whether conditions are merged in one go or what a part of them comes to is used as
the first one, which is what happens along a chain of delegations.

## Main definitions

* `trimSlashes`, `endSlashes` — a text without the slashes around it, and those at its end.
* `segments`, `closing`, `joinedPath` — the parts of a joined beginning and its end.

## Main statements

* `dropEndSlashes_joinPath` — how one more beginning is joined.
* `foldl_joinPath` — beginnings that are joined one after the other.
* `merges_in_parts` — what conditions come to, and that they may be merged in parts.
-/

namespace GatewayCompiler

/-! ### Texts without slashes around them -/

/-- `trimSlashes cs` are the characters without the slashes at either end. -/
def trimSlashes (cs : List Char) : List Char := dropStartSlashes (dropEndSlashes cs)

/-- `endSlashes cs` are the slashes at the end. -/
def endSlashes (cs : List Char) : List Char := cs.rtakeWhile (· = '/')

theorem dropEndSlashes_append_endSlashes (cs : List Char) :
    dropEndSlashes cs ++ endSlashes cs = cs :=
  List.rdropWhile_append_rtakeWhile

theorem eq_slash_of_mem_endSlashes {cs : List Char} {c : Char} (h : c ∈ endSlashes cs) : c = '/' := by
  simpa using List.mem_rtakeWhile_imp h

theorem dropEndSlashes_idem (cs : List Char) :
    dropEndSlashes (dropEndSlashes cs) = dropEndSlashes cs :=
  List.rdropWhile_idempotent _ cs

/-- A text is not shortened by `dropEndSlashes` if and only if its last character is no slash. -/
theorem dropEndSlashes_eq_self_iff {cs : List Char} :
    dropEndSlashes cs = cs ↔ ∀ hne : cs ≠ [], cs.getLast hne ≠ '/' := by
  change cs.rdropWhile (fun c => decide (c = '/')) = cs ↔ _
  rw [List.rdropWhile_eq_self_iff]
  simp

/-- Slashes that are put behind a text are dropped with those at its end. -/
theorem dropEndSlashes_append_slashes {slashes : List Char} (h : ∀ c ∈ slashes, c = '/')
    (front : List Char) : dropEndSlashes (front ++ slashes) = dropEndSlashes front := by
  unfold dropEndSlashes
  rw [List.reverse_append, List.dropWhile_append_of_pos]
  intro c hc
  exact decide_eq_true (h c (List.mem_reverse.mp hc))

/-- A text without slashes at its end is not shortened behind another one. -/
theorem dropEndSlashes_append_of_ne_nil {back : List Char} (hne : back ≠ [])
    (h : dropEndSlashes back = back) (front : List Char) :
    dropEndSlashes (front ++ back) = front ++ back := by
  rw [dropEndSlashes_eq_self_iff] at h ⊢
  intro hboth
  rw [List.getLast_append_of_ne_nil hboth hne]
  exact h hne

theorem dropEndSlashes_trimSlashes (cs : List Char) :
    dropEndSlashes (trimSlashes cs) = trimSlashes cs := by
  have hend := dropEndSlashes_eq_self_iff.mp (dropEndSlashes_idem cs)
  rw [dropEndSlashes_eq_self_iff]
  intro hne
  -- the last character is the one of the text before its slashes in front are dropped
  have hsuffix : trimSlashes cs <:+ dropEndSlashes cs := List.dropWhile_suffix _
  rw [hsuffix.getLast hne]
  exact hend _

theorem dropStartSlashes_trimSlashes (cs : List Char) :
    dropStartSlashes (trimSlashes cs) = trimSlashes cs :=
  List.dropWhile_idempotent _ _

/-- A text without the slashes at its start is what `trimSlashes` leaves with the slashes at the
end, and nothing if there are slashes only. -/
theorem dropStartSlashes_eq (cs : List Char) :
    dropStartSlashes cs = if trimSlashes cs = [] then [] else trimSlashes cs ++ endSlashes cs := by
  have hslashes : dropStartSlashes (endSlashes cs) = [] := by
    unfold dropStartSlashes
    rw [List.dropWhile_eq_nil_iff]
    exact fun c hc => decide_eq_true (eq_slash_of_mem_endSlashes hc)
  conv_lhs => rw [← dropEndSlashes_append_endSlashes cs]
  unfold dropStartSlashes at hslashes ⊢
  rw [List.dropWhile_append, hslashes]
  simp only [List.isEmpty_iff]
  rfl

/-! ### Joining -/

/-- `segments texts` are the parts of a joined beginning: the texts without the slashes around them,
as far as anything is left. -/
def segments (texts : List (List Char)) : List (List Char) :=
  (texts.map trimSlashes).filter (· ≠ [])

/-- `closing texts` is the end of a joined beginning: the slashes at the end of the last text, or a
single one if the last text consists of slashes only; there is none if all texts do. -/
def closing (texts : List (List Char)) : List Char :=
  if segments texts = [] then []
  else
    match texts.getLast? with
    | none => []
    | some last => if trimSlashes last = [] then ['/'] else endSlashes last

/-- `joinedPath texts` are the texts as one beginning of a path, with single slashes between
them. -/
def joinedPath (texts : List (List Char)) : List Char :=
  '/' :: (['/'].intercalate (segments texts) ++ closing texts)

/-- `slashed texts` are the parts with a slash in front of each. -/
def slashed (texts : List (List Char)) : List Char := (segments texts).flatMap ('/' :: ·)

theorem segments_concat (texts : List (List Char)) (text : List Char) :
    segments (texts ++ [text]) =
      if trimSlashes text = [] then segments texts else segments texts ++ [trimSlashes text] := by
  unfold segments
  rw [List.map_append, List.filter_append]
  by_cases h : trimSlashes text = []
  · simp [h]
  · simp [h]

theorem slashed_concat (texts : List (List Char)) (text : List Char) :
    slashed (texts ++ [text]) =
      slashed texts ++ if trimSlashes text = [] then [] else '/' :: trimSlashes text := by
  unfold slashed
  rw [segments_concat]
  split
  · rw [List.append_nil]
  · rw [List.flatMap_append, List.flatMap_singleton]

/-- Parts that are joined by slashes have a slash in front of each, but for the first one; so one is
put there. -/
theorem slashed_eq (texts : List (List Char)) :
    slashed texts = if segments texts = [] then [] else '/' :: ['/'].intercalate (segments texts) := by
  unfold slashed
  induction segments texts with
  | nil => rfl
  | cons segment rest ih =>
    rw [List.flatMap_cons, ih, if_neg (List.cons_ne_nil _ _)]
    cases rest with
    | nil => simp
    | cons next rest => simp [List.intercalate_cons_cons]

/-- One more text is put behind a single slash, and its slashes at the end stay. -/
theorem joinPath_eq (front text : List Char) :
    joinPath front text = dropEndSlashes front ++
      '/' :: if trimSlashes text = [] then [] else trimSlashes text ++ endSlashes text := by
  rw [joinPath, dropStartSlashes_eq]

/-- One more text adds its part, as far as anything is left of it. -/
theorem dropEndSlashes_joinPath (front text : List Char) :
    dropEndSlashes (joinPath front text) = dropEndSlashes front ++
      if trimSlashes text = [] then [] else '/' :: trimSlashes text := by
  rw [joinPath_eq]
  split
  · rw [dropEndSlashes_append_slashes (by simp), dropEndSlashes_idem, List.append_nil]
  · next hne =>
    have hclosed : dropEndSlashes ('/' :: trimSlashes text) = '/' :: trimSlashes text :=
      dropEndSlashes_append_of_ne_nil hne (dropEndSlashes_trimSlashes text) ['/']
    rw [← List.cons_append, ← List.append_assoc,
      dropEndSlashes_append_slashes fun c hc => eq_slash_of_mem_endSlashes hc,
      dropEndSlashes_append_of_ne_nil (List.cons_ne_nil _ _) hclosed]

/-- Without the slashes at the end, texts that are joined one after the other come to their parts.
By induction from the end, as a text at the end decides about the slashes there. -/
theorem dropEndSlashes_foldl_joinPath (texts : List (List Char)) :
    dropEndSlashes (texts.foldl joinPath ['/']) = slashed texts := by
  induction texts using List.reverseRecOn with
  | nil => rfl
  | append_singleton texts text ih =>
    rw [List.foldl_append, List.foldl_cons, List.foldl_nil, dropEndSlashes_joinPath, ih,
      slashed_concat]

/-- The parts with a slash in front of each begin the joined beginning, if there are any; the
`closing` slashes end it. -/
theorem joinedPath_of_segments_ne_nil {texts : List (List Char)} (h : segments texts ≠ []) :
    joinedPath texts = slashed texts ++ closing texts := by
  rw [slashed_eq, if_neg h]
  rfl

/-- Texts that are joined one after the other come to the joined beginning `joinedPath texts`. -/
theorem foldl_joinPath (texts : List (List Char)) :
    texts.foldl joinPath ['/'] = joinedPath texts := by
  cases texts using List.reverseRecOn with
  | nil => rfl
  | append_singleton texts text _ =>
    rw [List.foldl_append, List.foldl_cons, List.foldl_nil, joinPath_eq,
      dropEndSlashes_foldl_joinPath]
    by_cases hnone : segments (texts ++ [text]) = []
    · -- nothing is left of any of the texts
      have hempty := hnone
      rw [segments_concat] at hempty
      split at hempty
      · next htext => simp [joinedPath, closing, hnone, htext, slashed_eq, hempty]
      · simp at hempty
    · rw [joinedPath_of_segments_ne_nil hnone, slashed_concat, closing, if_neg hnone,
        List.getLast?_concat]
      by_cases htext : trimSlashes text = []
      · simp [htext]
      · simp [htext]

/-- A joined beginning begins with a single slash, so that it stays as it is when it is joined to
the root of all paths. -/
theorem joinPath_root_joinedPath (texts : List (List Char)) :
    joinPath ['/'] (joinedPath texts) = joinedPath texts := by
  have hrest : dropStartSlashes (['/'].intercalate (segments texts) ++ closing texts)
      = ['/'].intercalate (segments texts) ++ closing texts := by
    cases hsegments : segments texts with
    | nil => simp [closing, hsegments, dropStartSlashes]
    | cons segment rest =>
      have hmem : segment ∈ segments texts := by simp [hsegments]
      obtain ⟨htrimmed, hne⟩ := List.mem_filter.mp hmem
      obtain ⟨text, -, rfl⟩ := List.mem_map.mp htrimmed
      -- the first part does not begin with a slash
      obtain ⟨more, hmore⟩ : ∃ more, ['/'].intercalate (trimSlashes text :: rest)
          = trimSlashes text ++ more := by
        cases rest with
        | nil => exact ⟨[], by simp⟩
        | cons next rest =>
          exact ⟨'/' :: ['/'].intercalate (next :: rest), by simp [List.intercalate_cons_cons]⟩
      have hstart : (trimSlashes text).dropWhile (· = '/') = trimSlashes text :=
        dropStartSlashes_trimSlashes text
      have hsome : ¬ (trimSlashes text).isEmpty := by simpa using hne
      rw [hmore, dropStartSlashes, List.append_assoc, List.dropWhile_append, hstart, if_neg hsome]
  have hslash : dropStartSlashes (joinedPath texts)
      = dropStartSlashes (['/'].intercalate (segments texts) ++ closing texts) := rfl
  rw [joinPath, hslash, hrest]
  rfl

/-! ### Conditions -/

/-- `beginnings conditions` are the beginnings of paths that conditions ask for, in their order. -/
def beginnings (conditions : List Condition) : List (List Char) :=
  conditions.filterMap fun c => c.pathPrefix.map String.toList

/-- `Condition.ofPrefix text` asks for the beginning `text` of a path alone. -/
def Condition.ofPrefix (text : String) : Condition := ⟨some text, none, none⟩

theorem hasRegex_eq_false_iff {conditions : List Condition} :
    hasRegex conditions = false ↔ ∀ c ∈ conditions, c.pathRegex = none := by
  simp [hasRegex]

/-- Conditions without a pattern join their beginnings one after the other, behind those of
`start`. -/
theorem mergePathFrom_eq_foldl {conditions : List Condition}
    (h : ∀ c ∈ conditions, c.pathRegex = none) (start : List Char) :
    mergePathFrom start conditions =
      .startsWith (String.ofList ((beginnings conditions).foldl joinPath start)) := by
  induction conditions generalizing start with
  | nil => rfl
  | cons c rest ih =>
    rw [mergePathFrom_cons_none (h c List.mem_cons_self),
      ih fun d hd => h d (List.mem_cons_of_mem _ hd)]
    unfold Condition.extend beginnings
    cases hbegin : c.pathPrefix with
    | none => simp [hbegin]
    | some text => simp [hbegin]

/-- Conditions without a pattern come to their joined beginnings. -/
theorem mergePath_of_hasRegex_eq_false {conditions : List Condition}
    (h : hasRegex conditions = false) :
    mergePath conditions = .startsWith (String.ofList (joinedPath (beginnings conditions))) := by
  rw [mergePath, mergePathFrom_eq_foldl (hasRegex_eq_false_iff.mp h), foldl_joinPath]

/-- The first pattern is put behind the literal text that the conditions before it come to, and
nothing after it counts. -/
theorem mergePath_of_pathRegex {before : List Condition} (h : hasRegex before = false)
    {c : Condition} {pattern : String} (hpattern : c.pathRegex = some pattern)
    (after : List Condition) :
    mergePath (before ++ c :: after) = .regex (Pattern.escape
      (String.ofList (dropEndSlashes (joinedPath (beginnings before)))) ++ pattern) := by
  have hbefore : mergePathFrom ['/'] before = _ := mergePath_of_hasRegex_eq_false h
  rw [mergePath, mergePathFrom_append hbefore, mergePathFrom_cons_some hpattern, String.toList_ofList]

/-- What comes first may be merged before the rest: the text that `front` comes to stands for it. -/
theorem mergePath_append {front : List Condition} (h : hasRegex front = false)
    (back : List Condition) :
    mergePath (front ++ back) = mergePath (.ofPrefix (mergePath front).value :: back) := by
  have hfront : mergePathFrom ['/'] front = _ := mergePath_of_hasRegex_eq_false h
  rw [mergePath, mergePathFrom_append hfront, String.toList_ofList, mergePath_of_hasRegex_eq_false h,
    mergePath, mergePathFrom_cons_none rfl]
  unfold Condition.extend Condition.ofPrefix PathMatch.value
  simp only
  rw [String.toList_ofList, joinPath_root_joinedPath]

/-- **How conditions are merged.** Conditions without a pattern come to the beginnings that they ask
for, joined by single slashes.  A pattern follows what comes before it as a literal text, and
nothing after it counts.  Conditions may be merged in parts: what the first ones come to stands for
them, and tests of headers add up. -/
theorem merges_in_parts :
    (∀ conditions, hasRegex conditions = false →
      mergePath conditions = .startsWith (String.ofList (joinedPath (beginnings conditions)))) ∧
    (∀ before c after pattern, hasRegex before = false → c.pathRegex = some pattern →
      mergePath (before ++ c :: after) = .regex (Pattern.escape
        (String.ofList (dropEndSlashes (joinedPath (beginnings before)))) ++ pattern)) ∧
    (∀ front back, hasRegex front = false →
      mergePath (front ++ back) = mergePath (.ofPrefix (mergePath front).value :: back)) ∧
    ∀ front back, mergeHeaders (front ++ back) = mergeHeaders front ++ mergeHeaders back := by
  refine ⟨fun _ => mergePath_of_hasRegex_eq_false, ?_, ?_, ?_⟩
  · exact fun before c after pattern hbefore hpattern => mergePath_of_pathRegex hbefore hpattern after
  · exact fun front back hfront => mergePath_append hfront back
  · exact fun front back => List.filterMap_append

/-- Slashes around beginnings do not add up, and a pattern follows them without one. -/
theorem api_merges_in_parts :
    hasRegex [.ofPrefix "/api//", .ofPrefix "//v1/", .ofPrefix "//"] = false ∧
    mergePath [.ofPrefix "/api//", .ofPrefix "//v1/", .ofPrefix "//"] = .startsWith "/api/v1/" ∧
    mergePath [.ofPrefix "/api//", .ofPrefix "//v1/", .ofPrefix "//", alternativesCondition, apiCondition]
      = .regex "/api/v1/a|/b" ∧
    mergePath [.ofPrefix "/api//", .ofPrefix "//v1/", .ofPrefix "//", .ofPrefix "users//"]
      = mergePath [.ofPrefix "/api/v1/", .ofPrefix "users//"] := by
  have hplain : hasRegex [.ofPrefix "/api//", .ofPrefix "//v1/", .ofPrefix "//"] = false := by rfl
  obtain ⟨hjoined, hpattern, hparts, -⟩ := merges_in_parts
  exact ⟨hplain, hjoined _ hplain, hpattern _ alternativesCondition [apiCondition] "/a|/b" hplain rfl,
    hparts _ [.ofPrefix "users//"] hplain⟩

end GatewayCompiler
