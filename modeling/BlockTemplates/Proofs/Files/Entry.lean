import BlockTemplates.Proofs.Files.Leading

/-! Paths of the entries of a folder. The name of an entry behind a path that leads to the folder
leads to the entry. Main statements: `locate_join` and `resolve_join`. -/

namespace BlockTemplates

namespace Path

variable {folder path : Path} {name : String}

theorem isAbsolute_name (single : '/' ∉ name.toList) : isAbsolute ⟨name⟩ = false := by
  unfold isAbsolute
  rw [decide_eq_false_iff_not]
  exact fun absolute => single (List.mem_of_head? absolute)

theorem toList_join (filled : folder.text.isEmpty = false) (relative : path.isAbsolute = false) :
    ∃ before, (folder.text.toList = before ∨ folder.text.toList = before ++ ['/']) ∧
      (folder.join path).text.toList = before ++ '/' :: path.text.toList := by
  unfold join
  rw [if_neg (by rw [relative]; decide), filled, Bool.false_or]
  by_cases slash : folder.text.toList.getLast? = some '/'
  · rw [if_pos (decide_eq_true slash)]
    obtain ⟨before, spelled⟩ := List.getLast?_eq_some_iff.mp slash
    refine ⟨before, .inr spelled, ?_⟩
    rw [String.toList_append, spelled, List.append_assoc]
    rfl
  · rw [if_neg (by simpa using slash)]
    refine ⟨folder.text.toList, .inl rfl, ?_⟩
    rw [String.toList_append, String.toList_append, List.append_assoc]
    rfl

theorem pieces_of_append {path : Path} {before : List Char} (after : List Char)
    (spelled : path.text.toList = before ++ '/' :: after) :
    path.pieces = pieces ⟨String.ofList before⟩ ++ pieces ⟨String.ofList after⟩ := by
  unfold pieces
  rw [spelled, String.toList_ofList, String.toList_ofList, ← List.map_append, Text.splitBy_eq_splitOnP,
    Text.splitBy_eq_splitOnP, Text.splitBy_eq_splitOnP]
  exact congrArg _ (List.splitOnP_append_cons before after (decide_eq_true rfl))

theorem pieces_name (single : '/' ∉ name.toList) : pieces ⟨name⟩ = [name] := by
  have whole : Text.splitBy (· = '/') name.toList = [name.toList] := by
    rw [Text.splitBy_eq_splitOnP]
    apply List.splitOnP_eq_singleton
    intro c inside
    rw [decide_eq_false_iff_not]
    rintro rfl
    exact single inside
  unfold pieces
  rw [whole, List.map_singleton, String.ofList_toList]

theorem pieces_ne_nil (path : Path) : path.pieces ≠ [] := by
  unfold pieces
  rw [Text.splitBy_eq_splitOnP, Ne, List.map_eq_nil_iff]
  exact List.splitOnP_ne_nil _ _

theorem head?_pieces_append (path : Path) (others : List String) :
    (path.pieces ++ others).head? = path.pieces.head? := by
  rw [List.head?_append, List.head?_eq_some_head (pieces_ne_nil path)]
  rfl

theorem pieces_join (filled : folder.text.isEmpty = false) (relative : path.isAbsolute = false) :
    ∃ before, (folder.pieces = before ∨ folder.pieces = before ++ [""]) ∧
      (folder.join path).pieces = before ++ path.pieces := by
  obtain ⟨before, start, spelled⟩ := toList_join filled relative
  have whole := pieces_of_append path.text.toList spelled
  rw [String.ofList_toList] at whole
  refine ⟨pieces ⟨String.ofList before⟩, ?_, whole⟩
  rcases start with rfl | ended
  · exact .inl (by rw [String.ofList_toList])
  · exact .inr (pieces_of_append [] ended)

theorem isAbsolute_join (filled : folder.text.isEmpty = false) (relative : path.isAbsolute = false) :
    (folder.join path).isAbsolute = folder.isAbsolute := by
  obtain ⟨before, start, spelled⟩ := toList_join filled relative
  have begun : folder.text.toList ≠ [] := by
    intro none
    rw [String.toList_eq_nil_iff] at none
    rw [none] at filled
    cases filled
  unfold isAbsolute
  rw [spelled]
  rcases start with rfl | ended
  · rw [List.head?_append, List.head?_eq_some_head begun]
    rfl
  · rw [ended, List.head?_append, List.head?_append]
    rfl

theorem isEmpty_join (filled : folder.text.isEmpty = false) (relative : path.isAbsolute = false) :
    (folder.join path).text.isEmpty = false := by
  obtain ⟨before, -, spelled⟩ := toList_join filled relative
  rw [Bool.eq_false_iff, Ne, String.isEmpty_iff, ← String.toList_eq_nil_iff, spelled]
  exact List.append_ne_nil_of_right_ne_nil _ (List.cons_ne_nil _ _)

theorem mem_join_iff {c : Char} (filled : folder.text.isEmpty = false) (relative : path.isAbsolute = false)
    (other : c ≠ '/') :
    c ∈ (folder.join path).text.toList ↔ c ∈ folder.text.toList ∨ c ∈ path.text.toList := by
  obtain ⟨before, start, spelled⟩ := toList_join filled relative
  have same : c ∈ folder.text.toList ↔ c ∈ before := by
    rcases start with rfl | ended
    · rfl
    · rw [ended, List.mem_append, List.mem_singleton, or_iff_left other]
  rw [spelled, List.mem_append, List.mem_cons, or_iff_right other, same]

theorem contains_join_name (filled : folder.text.isEmpty = false) (proper : FileSystem.ProperName name) :
    (folder.join ⟨name⟩).text.toList.contains '\x00' = folder.text.toList.contains '\x00' := by
  rw [Bool.eq_iff_iff, List.contains_iff_mem, List.contains_iff_mem,
    mem_join_iff filled (isAbsolute_name proper.single) (by decide), or_iff_left proper.valid]

/-- Behind a slash the pieces of a path are components, also a single dot that stands there first. -/
theorem components_of_append {path : Path} {before : List Char} (after : List Char)
    (spelled : path.text.toList = before ++ '/' :: after) :
    path.components = components ⟨String.ofList (before ++ ['/'])⟩ ++
      (pieces ⟨String.ofList after⟩).filterMap component? := by
  have whole := pieces_of_append after spelled
  have shorter : pieces ⟨String.ofList (before ++ ['/'])⟩ = pieces ⟨String.ofList before⟩ ++ [""] :=
    pieces_of_append [] String.toList_ofList
  have absolute : path.isAbsolute = isAbsolute ⟨String.ofList (before ++ ['/'])⟩ := by
    unfold isAbsolute
    rw [spelled, String.toList_ofList]
    cases before <;> rfl
  have blank : [""].filterMap component? = [] := rfl
  unfold components
  simp only [absolute, whole, shorter, head?_pieces_append, List.filterMap_append, blank, List.append_nil]
  split
  · rfl
  · split
    · rfl
    · rfl

theorem components_lastSlash {before : List Char} (begun : before ≠ []) :
    components ⟨String.ofList (before ++ ['/'])⟩ = components ⟨String.ofList before⟩ := by
  have whole : pieces ⟨String.ofList (before ++ ['/'])⟩ = pieces ⟨String.ofList before⟩ ++ [""] :=
    pieces_of_append [] String.toList_ofList
  have absolute : isAbsolute ⟨String.ofList (before ++ ['/'])⟩ = isAbsolute ⟨String.ofList before⟩ := by
    unfold isAbsolute
    rw [String.toList_ofList, String.toList_ofList, List.head?_append, List.head?_eq_some_head begun]
    rfl
  have blank : [""].filterMap component? = [] := rfl
  unfold components
  simp only [absolute, whole, head?_pieces_append, List.filterMap_append, blank, List.append_nil]

theorem components_join (filled : folder.text.isEmpty = false) (relative : path.isAbsolute = false) :
    (folder.join path).components = folder.components ++ path.pieces.filterMap component? := by
  obtain ⟨before, start, spelled⟩ := toList_join filled relative
  have outer : components ⟨String.ofList (before ++ ['/'])⟩ = folder.components := by
    rcases start with rfl | ended
    · rw [components_lastSlash, String.ofList_toList]
      rw [Ne, String.toList_eq_nil_iff]
      exact fun none => by simp [none] at filled
    · rw [← ended, String.ofList_toList]
  rw [components_of_append _ spelled, outer, String.ofList_toList]

theorem components_join_name (filled : folder.text.isEmpty = false) (proper : FileSystem.ProperName name) :
    (folder.join ⟨name⟩).components = folder.components ++ [.name name] := by
  have single : component? name = some (.name name) := by
    unfold component?
    rw [if_neg (not_or.mpr ⟨proper.solid.1, proper.solid.2.1⟩), if_neg proper.solid.2.2]
  rw [components_join filled (isAbsolute_name proper.single), pieces_name proper.single,
    List.filterMap_cons_some single, List.filterMap_nil]

/-- The path that names lead to from a folder. -/
def descend (folder : Path) : List String → Path
  | [] => folder
  | name :: names => (folder.join ⟨name⟩).descend names

theorem descend_append (folder : Path) (above below : List String) :
    folder.descend (above ++ below) = (folder.descend above).descend below := by
  induction above generalizing folder with
  | nil => rfl
  | cons name above ih => exact ih (folder.join ⟨name⟩)

end Path

namespace FileSystem

variable {files : FileSystem}

theorem locateFrom_append {links : Nat} {place target : Place} {pieces : List String}
    (led : files.locateFrom true links place pieces = .ok (.present target)) :
    ∃ left, ∀ follows rest, ¬ (rest.all (· = "") && !follows) = true →
      files.locateFrom follows links place (pieces ++ rest) = files.locateFrom follows left target rest := by
  fun_induction locateFrom files true links place pieces with
  | case1 =>
    obtain rfl := Target.present.inj (Except.ok.inj led)
    exact ⟨_, fun _ _ _ => rfl⟩
  | case2 _ _ _ _ _ held blank ih =>
    obtain ⟨left, same⟩ := ih led
    refine ⟨left, fun follows rest filled => ?_⟩
    rw [List.cons_append, locateFrom_blank held blank, same follows rest filled]
  | case3 _ _ _ _ held _ ih =>
    obtain ⟨left, same⟩ := ih led
    refine ⟨left, fun follows rest filled => ?_⟩
    rw [List.cons_append, locateFrom_up held, same follows rest filled]
  | case4 => cases led
  | case5 => cases led
  | case6 => cases led
  | case7 _ _ _ _ _ _ _ _ _ _ _ ended => simp at ended
  | case8 => cases led
  | case9 _ _ more _ held solid up short _ linked _ _ ih =>
    obtain ⟨left, same⟩ := ih led
    refine ⟨left, fun follows rest filled => ?_⟩
    have passed : ¬ ((more ++ rest).all (· = "") && !follows) = true := by
      rw [List.all_append, Bool.and_assoc, Bool.and_eq_true]
      exact fun all => filled all.2
    rw [List.cons_append, locateFrom_through held solid up short linked passed, ← List.append_assoc]
    exact same follows rest filled
  | case10 _ _ _ _ _ held solid up short node unlinked found ih =>
    obtain ⟨left, same⟩ := ih led
    refine ⟨left, fun follows rest filled => ?_⟩
    rw [List.cons_append, locateFrom_solid held solid up short found fun target link => unlinked target link]
    exact same follows rest filled
  | case11 => cases led

section Join

variable {folder : Path} {place : Place} {entries : List (String × Node)} {name : String} {node : Node}

theorem locate_join_eq (led : files.resolve folder = .ok place) (proper : ProperName name) :
    ∃ left, ∀ follows,
      files.locate follows (folder.join ⟨name⟩) = files.locateFrom follows left place [name] := by
  rw [resolve_eq_ok_iff, locate_eq_ok_iff] at led
  obtain ⟨filled, valid, led⟩ := led
  have relative := Path.isAbsolute_name proper.single
  obtain ⟨before, start, whole⟩ := Path.pieces_join filled relative
  rw [Path.pieces_name proper.single] at whole
  have reached : files.locateFrom true maxLinks (if folder.isAbsolute then [] else files.working) before =
      .ok (.present place) := by
    rcases start with same | ended
    · rwa [same] at led
    · rw [ended] at led
      have shorter := locateFrom_drop (.inl rfl) led
      rwa [List.append_nil] at shorter
  obtain ⟨left, same⟩ := locateFrom_append reached
  refine ⟨left, fun follows => ?_⟩
  have spelled := Path.isEmpty_join filled relative
  have clean : ¬ (folder.join ⟨name⟩).text.toList.contains '\x00' = true := by
    rw [Path.contains_join_name filled proper, valid]
    exact Bool.false_ne_true
  unfold locate
  rw [if_neg (by rw [spelled]; decide), if_neg clean, Path.isAbsolute_join filled relative, whole]
  exact same follows [name] (by simp [proper.solid.1])

theorem resolve_join (led : files.resolve folder = .ok place)
    (held : files.node? place = some (.folder entries)) (proper : ProperName name)
    (found : entries.lookup name = some node) (unlinked : ∀ target, node ≠ .link target) :
    files.resolve (folder.join ⟨name⟩) = .ok (place ++ [name]) := by
  obtain ⟨left, same⟩ := locate_join_eq led proper
  have solid : ¬ (name = "" ∨ name = ".") := not_or.mpr ⟨proper.solid.1, proper.solid.2.1⟩
  rw [resolve_eq_ok_iff, same true,
    locateFrom_solid held solid proper.solid.2.2 (Nat.not_lt.mpr proper.short) found unlinked, locateFrom]

theorem stat_join (led : files.resolve folder = .ok place) (held : files.node? place = some (.folder entries))
    (proper : ProperName name) (found : entries.lookup name = some node) (unlinked : ∀ target, node ≠ .link target) :
    files.stat (folder.join ⟨name⟩) = .ok node :=
  stat_eq_ok_iff.mpr
    ⟨_, resolve_join led held proper found unlinked, by rw [node?_append_singleton held, found]⟩

theorem readText_join {content : String} (led : files.resolve folder = .ok place)
    (held : files.node? place = some (.folder entries)) (proper : ProperName name)
    (found : entries.lookup name = some (.file (some content))) :
    files.readText (folder.join ⟨name⟩) = .ok content := by
  unfold readText
  rw [stat_join led held proper found (Node.file_ne_link _)]
  rfl

theorem readText_join_absent (led : files.resolve folder = .ok place)
    (held : files.node? place = some (.folder entries)) (proper : ProperName name)
    (free : entries.lookup name = none) : files.readText (folder.join ⟨name⟩) = .error .notFound := by
  obtain ⟨left, same⟩ := locate_join_eq led proper
  have solid : ¬ (name = "" ∨ name = ".") := not_or.mpr ⟨proper.solid.1, proper.solid.2.1⟩
  have lost : files.locate true (folder.join ⟨name⟩) = .ok (.absent place name false) := by
    rw [same true, locateFrom, held]
    dsimp only
    rw [if_neg solid, if_neg proper.solid.2.2, if_neg (Nat.not_lt.mpr proper.short), free]
    rfl
  unfold readText stat resolve
  rw [lost]
  rfl

end Join

/-- What there has been below a folder is faithful under every name, links in particular. -/
def Steady (before after : FileSystem) (folder : Path) : Prop :=
  ∀ names place, (∀ name ∈ names, ProperName name) →
    before.locate false (folder.descend names) = .ok (.present place) → Faithful before after (folder.descend names)

theorem Steady.down {before after : FileSystem} {folder : Path} {name : String} (steady : Steady before after folder)
    (proper : ProperName name) : Steady before after (folder.join ⟨name⟩) :=
  fun names place rest located => steady (name :: names) place (List.forall_mem_cons.mpr ⟨proper, rest⟩) located

end FileSystem

end BlockTemplates
