import BlockTemplates.Proofs.Template.Loading

/-! Sources in any order. Once all of them can be split, only the last source of each name counts, and
templates are checked in the order of their names; a source that cannot be split is reported before
that, the first one of the list. Main statement: `ofSources_order`. -/

namespace BlockTemplates

def AllSplit (sources : List (String × String)) : Prop :=
  ∀ source ∈ sources, ∃ parts, Source.split source.2 = .ok parts

/-- The source that counts for a name. -/
def lastSource? (sources : List (String × String)) (name : String) : Option String :=
  sources.reverse.lookup name

namespace Template

variable {minified : Bool} {source : String × String}

theorem exists_entryOf_iff :
    (∃ entry, entryOf minified source = .ok entry) ↔ ∃ parts, Source.split source.2 = .ok parts := by
  refine Iff.trans ?_ (exists_ofSource_iff : (∃ template, ofSource source.1 source.2 minified = .ok template) ↔ _)
  unfold entryOf
  cases ofSource source.1 source.2 minified with
  | error failure => exact iff_of_false (fun ⟨_, made⟩ => nomatch made) fun ⟨_, made⟩ => nomatch made
  | ok template => exact iff_of_true ⟨_, rfl⟩ ⟨_, rfl⟩

theorem entryOf_eq_error_iff {failure : Failure} :
    entryOf minified source = .error failure ↔
      ∃ opened, Source.split source.2 = .error opened ∧
        Failure.templateSyntax source.1 opened = failure := by
  refine Iff.trans ?_ (ofSource_eq_error_iff : ofSource source.1 source.2 minified = .error failure ↔ _)
  unfold entryOf
  rw [Result.bind_eq_error_iff]
  exact or_iff_left fun ⟨_, _, made⟩ => nomatch made

end Template

section LastSources

variable {minified : Bool} {sources sources' : List (String × String)}

theorem AllSplit.exists_entries (splits : AllSplit sources) (minified : Bool) :
    ∃ entries, sources.mapM (Template.entryOf minified) = .ok entries := by
  have steps : ∀ source ∈ sources, ∃ entry, Template.entryOf minified source = .ok entry ∧ True := by
    intro source member
    obtain ⟨entry, made⟩ := Template.exists_entryOf_iff.mpr (splits source member)
    exact ⟨entry, made, trivial⟩
  obtain ⟨entries, made, -⟩ := Result.exists_mapM steps
  exact ⟨entries, made⟩

theorem lookup_entries {entries : List (String × Template)}
    (made : sources.mapM (Template.entryOf minified) = .ok entries) (name : String) :
    entries.reverse.lookup name =
      (lastSource? sources name).bind fun source => (Template.ofSource name source minified).toOption := by
  have related := List.forall₂_reverse_iff.mpr (Result.mapM_eq_ok_iff.mp made)
  unfold lastSource?
  generalize sources.reverse = back, entries.reverse = back' at related
  induction related with
  | nil => rfl
  | @cons source entry sources entries head _ ih =>
    obtain ⟨template, compiled, same⟩ := Result.bind_eq_ok_iff.mp head
    obtain rfl := Except.ok.inj same
    rw [List.lookup_cons, List.lookup_cons]
    split
    · next same =>
      rw [eq_of_beq same, Option.bind_some, compiled]
      rfl
    · exact ih

theorem ofList_entries_eq (last : ∀ name, lastSource? sources name = lastSource? sources' name)
    {entries entries' : List (String × Template)}
    (made : sources.mapM (Template.entryOf minified) = .ok entries)
    (made' : sources'.mapM (Template.entryOf minified) = .ok entries') :
    Dict.ofList entries = Dict.ofList entries' := by
  apply Dict.ext_get?
  intro name
  rw [Dict.get?_ofList, Dict.get?_ofList, lookup_entries made, lookup_entries made', last]

theorem lastSource?_shadowed {before after : List (String × String)} {name : String} (source : String)
    (again : name ∈ after.map Prod.fst) (other : String) :
    lastSource? (before ++ (name, source) :: after) other = lastSource? (before ++ after) other := by
  unfold lastSource?
  rw [List.reverse_append, List.reverse_append, List.reverse_cons, List.lookup_append,
    List.lookup_append, List.lookup_append]
  by_cases same : other = name
  · subst same
    rw [← List.mem_reverse, ← List.map_reverse] at again
    obtain ⟨text, found⟩ := Dict.mem_keys_iff.mp again
    simp only [found, Option.some_or]
  · have apart : (other == name) = false := beq_eq_false_iff_ne.mpr same
    rw [List.lookup_cons, apart, List.lookup_nil, Option.or_none]

end LastSources

namespace TemplateSet

variable {environment : Expr.Environment} {minified : Bool} {sources sources' : List (String × String)}

theorem ofSources_eq {entries : List (String × Template)}
    (made : sources.mapM (Template.entryOf minified) = .ok entries) :
    ofSources environment minified sources = ofBundle environment (.new minified (.ofList entries)) := by
  have built : bundleOfSources minified sources = .ok (.new minified (.ofList entries)) :=
    Result.bind_eq_ok_iff.mpr ⟨entries, made, rfl⟩
  rw [ofSources, built]
  rfl

theorem ofSources_eq_of_last (splits : AllSplit sources) (splits' : AllSplit sources')
    (last : ∀ name, lastSource? sources name = lastSource? sources' name) :
    ofSources environment minified sources = ofSources environment minified sources' := by
  obtain ⟨entries, made⟩ := splits.exists_entries minified
  obtain ⟨entries', made'⟩ := splits'.exists_entries minified
  rw [ofSources_eq made, ofSources_eq made', ofList_entries_eq last made made']

theorem ofBundle_ne_templateSyntax (bundle : Bundle) (name : String) (opened : Source.Position) :
    ofBundle environment bundle ≠ .error (.templateSyntax name opened) := by
  intro failed
  obtain ⟨_, _, -, fault, -⟩ := ofBundle_eq_error_iff.mp failed
  cases fault

theorem ofSources_eq_templateSyntax_iff {name : String} {opened : Source.Position} :
    ofSources environment minified sources = .error (.templateSyntax name opened) ↔
      ∃ before source after, sources = before ++ (name, source) :: after ∧ AllSplit before ∧
        Source.split source = .error opened := by
  have compiling : bundleOfSources minified sources = .error (.templateSyntax name opened) ↔
      sources.mapM (Template.entryOf minified) = .error (.templateSyntax name opened) := by
    change sources.mapM (Template.entryOf minified) >>= _ = _ ↔ _
    rw [Result.bind_eq_error_iff]
    exact or_iff_left fun ⟨_, _, made⟩ => nomatch made
  rw [ofSources, Result.bind_eq_error_iff, compiling, Result.mapM_eq_error_iff,
    or_iff_left fun ⟨bundle, _, failed⟩ => ofBundle_ne_templateSyntax bundle name opened failed]
  simp only [Template.exists_entryOf_iff, Template.entryOf_eq_error_iff]
  constructor
  · rintro ⟨before, ⟨other, source⟩, after, rfl, splits, _, failed, same⟩
    obtain ⟨rfl, rfl⟩ := Failure.templateSyntax.inj same
    exact ⟨before, source, after, rfl, splits, failed⟩
  · rintro ⟨before, source, after, rfl, splits, failed⟩
    exact ⟨before, (name, source), after, rfl, splits, opened, failed, rfl⟩

/-- Sources that can all be split make the same set, or fail alike, as any others that can and in which
each name has the same last source; so a source whose name comes again leaves no trace. Otherwise the
first one of the list that cannot be split is reported, and such a report has no other cause. -/
theorem ofSources_order (environment : Expr.Environment) (minified : Bool) :
    (∀ sources sources', AllSplit sources → AllSplit sources' →
      (∀ name, lastSource? sources name = lastSource? sources' name) →
        ofSources environment minified sources = ofSources environment minified sources') ∧
    (∀ before name source after, AllSplit (before ++ (name, source) :: after) →
      name ∈ after.map Prod.fst →
        ofSources environment minified (before ++ (name, source) :: after) =
          ofSources environment minified (before ++ after)) ∧
    ∀ sources name opened,
      ofSources environment minified sources = .error (.templateSyntax name opened) ↔
        ∃ before source after, sources = before ++ (name, source) :: after ∧ AllSplit before ∧
          Source.split source = .error opened := by
  refine ⟨fun sources sources' splits splits' last => ofSources_eq_of_last splits splits' last, ?_,
    fun sources name opened => ofSources_eq_templateSyntax_iff⟩
  intro before name source after splits again
  have splits' : AllSplit (before ++ after) := fun other member =>
    splits other ((List.sublist_cons_self _ after).append_left before |>.subset member)
  exact ofSources_eq_of_last splits splits' (lastSource?_shadowed source again)

/-- Sources of two names, of which the first one cannot be loaded but is drawn up again later on. -/
def redrawnSources : List (String × String) :=
  [("page", "$\x7b1 +\x7d"), ("note", "n"), ("page", "<p>$\x7b1\x7d</p>")]

theorem ofSources_order_redrawn :
    AllSplit redrawnSources ∧
      ofSources .plain false redrawnSources =
        ofSources .plain false [("page", "<p>$\x7b1\x7d</p>"), ("note", "n")] ∧
      ofSources .plain false redrawnSources =
        ofSources .plain false [("note", "n"), ("page", "<p>$\x7b1\x7d</p>")] ∧
      (ofSources .plain false redrawnSources).isOk := by
  have first : ∃ parts, Source.split "$\x7b1 +\x7d" = .ok parts :=
    ⟨⟨["", ""], [⟨"1 +", ⟨1, 1⟩⟩]⟩, by with_unfolding_all rfl⟩
  have note : ∃ parts, Source.split "n" = .ok parts := ⟨⟨["n"], []⟩, by with_unfolding_all rfl⟩
  have second : ∃ parts, Source.split "<p>$\x7b1\x7d</p>" = .ok parts :=
    ⟨⟨["<p>", "</p>"], [⟨"1", ⟨1, 4⟩⟩]⟩, by with_unfolding_all rfl⟩
  have splits : AllSplit redrawnSources := by
    simp [AllSplit, redrawnSources, first, note, second]
  have splits' : AllSplit [("page", "<p>$\x7b1\x7d</p>"), ("note", "n")] := by
    simp [AllSplit, note, second]
  obtain ⟨same, untraced, -⟩ := ofSources_order .plain false
  have other : ofSources .plain false redrawnSources =
      ofSources .plain false [("note", "n"), ("page", "<p>$\x7b1\x7d</p>")] :=
    untraced [] "page" _ _ splits (by simp)
  refine ⟨splits, same _ _ splits splits' fun name => ?_, other, ?_⟩
  · by_cases page : name = "page"
    · simp [lastSource?, redrawnSources, page, List.lookup_cons]
    · have apart : (name == "page") = false := beq_eq_false_iff_ne.mpr page
      simp [lastSource?, redrawnSources, apart, List.lookup_cons]
  · rw [other]
    with_unfolding_all rfl

end TemplateSet

end BlockTemplates
