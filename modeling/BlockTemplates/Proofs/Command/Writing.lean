import BlockTemplates.Proofs.Command.Refusing
import Mathlib.Data.List.Nodup

/-! Writing a command line as arguments. Whatever the order of its switches, and whichever of those that hold
for any command stand before the name of the command, reading the arguments gives the command line again.
Main statement: `CommandLine.ofArguments_written`. -/

namespace BlockTemplates

namespace Command

def scope : Command → Scope
  | build .. => .build
  | render .. => .render
  | list .. => .list

def name : Command → String
  | build .. => "build"
  | render .. => "render"
  | list .. => "list"

def words : Command → List String
  | build folder output _ _ => [folder.text, output.text]
  | render name .. => [name]
  | list _ => []

/-- The last arguments of a command: two hyphens and its words, or nothing if it has none. -/
inductive EndsIn (command : Command) : List String → Prop
  | separated : EndsIn command ("--" :: command.words)
  | bare (none : command.words = []) : EndsIn command []

theorem length_words (command : Command) : command.words.length = command.scope.words.length := by
  cases command <;> rfl

theorem ofName?_name (command : Command) : Scope.ofName? command.name = some command.scope := by
  cases command <;> rfl

end Command

namespace CommandLine

def path? (line : CommandLine) (s : Switch) : Option Path :=
  match s, line.command with
  | .path, _ => line.root
  | .templates, some (.render _ templates _ _ _) => templates
  | .templates, some (.list templates) => templates
  | .bundle, some (.render _ _ bundle _ _) => bundle
  | .data, some (.render _ _ _ data _) => data
  | _, _ => none

def isOn (line : CommandLine) (s : Switch) : Bool :=
  match s, line.command with
  | .verbose, _ => line.verbose
  | .noColor, _ => line.noColor
  | .minified, some (.build _ _ minified _) => minified
  | .minified, some (.render _ _ _ _ minified) => minified
  | .watch, some (.build _ _ _ watch) => watch
  | _, _ => false

def Gives (line : CommandLine) (s : Switch) : Prop := (line.path? s).isSome ∨ line.isOn s

instance (line : CommandLine) (s : Switch) : Decidable (line.Gives s) := inferInstanceAs (Decidable (_ ∨ _))

def HasTwoSources (line : CommandLine) : Prop := (line.path? .templates).isSome ∧ (line.path? .bundle).isSome

instance (line : CommandLine) : Decidable line.HasTwoSources := inferInstanceAs (Decidable (_ ∧ _))

/-- A command line asks for a command, and none of its paths is empty. -/
structure Asks (line : CommandLine) (command : Command) : Prop where
  asked : line.command = some command
  options : ∀ s path, line.path? s = some path → path.text ≠ ""
  words : ∀ folder output minified watch, command = Command.build folder output minified watch →
    folder.text ≠ "" ∧ output.text ≠ ""

/-- The switches of a command line in some order, each of them once; those before the name of the command
hold for any command. -/
structure Orders (line : CommandLine) (before after : List Switch) : Prop where
  once : (before ++ after).Nodup
  given : ∀ s, s ∈ before ++ after ↔ line.Gives s
  forAny : ∀ s ∈ before, s ∈ Scope.program.switches

def option (line : CommandLine) (s : Switch) : String := s.text ((line.path? s).map Path.text)

/-- A command line as arguments, with its switches in a given order. -/
def write (line : CommandLine) (command : Command) (before after : List Switch) (tail : List String) : List String :=
  before.map line.option ++ command.name :: (after.map line.option ++ tail)

variable {line : CommandLine} {command : Command} {before after : List Switch} {s : Switch}

theorem path?_eq_none (absent : ¬ line.Gives s) : line.path? s = none :=
  Option.not_isSome_iff_eq_none.mp fun some => absent (.inl some)

theorem isOn_eq_false (absent : ¬ line.Gives s) : line.isOn s = false :=
  Bool.eq_false_iff.mpr fun on => absent (.inr on)

theorem Gives.path_or_on (given : line.Gives s) :
    (∃ path, line.path? s = some path ∧ s.takesPath = true ∧ line.isOn s = false) ∨
      line.path? s = none ∧ s.takesPath = false ∧ line.isOn s = true ∧ s ≠ .help ∧ s ≠ .version := by
  obtain ⟨command, root, verbose, noColor⟩ := line
  unfold Gives at given
  rcases command with _ | (_ | _ | _) <;> cases s <;>
    simp_all [path?, isOn, Switch.takesPath, Option.isSome_iff_exists]

theorem Asks.mem_switches (asks : line.Asks command) (given : line.Gives s) : s ∈ command.scope.switches := by
  have asked := asks.asked
  unfold Gives at given
  cases command <;> cases s <;> simp_all [path?, isOn, Command.scope, Scope.switches]

theorem Asks.ne_empty (asks : line.Asks command) (i : Nat) (isPath : command.scope.words[i]? = some true) :
    command.words[i]? ≠ some "" := by
  cases command with
  | build folder output minified watch =>
    obtain ⟨folderFull, outputFull⟩ := asks.words folder output minified watch rfl
    match i with
    | 0 => simpa [Command.words] using folderFull
    | 1 => simpa [Command.words] using outputFull
    | i + 2 => simp [Command.words]
  | render => cases i <;> cases isPath
  | list => cases isPath

theorem Orders.mem_after (orders : line.Orders before after) (own : s ∉ Scope.program.switches) :
    s ∈ after ↔ line.Gives s := by
  rw [← orders.given, List.mem_append]
  exact (or_iff_right fun mem => own (orders.forAny s mem)).symm

end CommandLine

namespace Matched

variable {scope : Scope} {m outer inner : Matched} {line : CommandLine} {command : Command}
  {read given before after : List Switch} {words rest tail : List String} {s : Switch} {path : Path}

theorem settle_of_nothing (pending : m.pending = .nothing) : m.settle scope = .ok m := by
  cases m
  cases pending
  rfl

theorem finish_of_nothing (pending : m.pending = .nothing) (count : m.words.length = scope.words.length) :
    m.finish scope = if m.HasBoth then .error .conflict else .ok m := by
  have enough : ¬ m.words.length < scope.words.length := by omega
  rw [finish_eq, settle_of_nothing pending]
  change (if m.HasBoth then _ else _) = _
  rw [if_neg enough]

theorem assign_of_nothing {value : String} (pending : m.pending = .nothing) (unread : m.values.lookup s = none)
    (full : value ≠ "") :
    m.assign scope s (some value) = .ok { m with values := m.values ++ [(s, value)] } := by
  have nonempty : value.isEmpty = false := by simpa using full
  rw [assign, settle_of_nothing pending]
  simp [settle, unread, nonempty, pending, bind, Except.bind]

theorem turnOn_of_nothing (pending : m.pending = .nothing) (unread : s ∉ m.on) (noHelp : s ≠ .help)
    (noVersion : s ≠ .version) : m.turnOn scope s = .ok { m with on := s :: m.on } := by
  have off : m.on.contains s = false := by simpa using unread
  rw [turnOn, settle_of_nothing pending]
  cases s <;> first | contradiction | simp only [bind, Except.bind, off]; rfl

/-- What has been read are some switches of a command line and some words; nothing waits to be looked at. -/
structure Holds (line : CommandLine) (read : List Switch) (words : List String) (m : Matched) : Prop where
  pending : m.pending = .nothing
  words : m.words = words
  values : ∀ s, m.values.lookup s = if s ∈ read then (line.path? s).map Path.text else none
  on : ∀ s, s ∈ m.on ↔ s ∈ read ∧ line.isOn s

section Reading

theorem holds_nothing (line : CommandLine) : Holds line [] [] {} where
  pending := rfl
  words := rfl
  values := fun _ => rfl
  on := fun s => by simp

theorem Holds.assigned (holds : m.Holds line read words) (fresh : s ∉ read) (valued : line.path? s = some path)
    (off : line.isOn s = false) :
    Holds line (read ++ [s]) words { m with values := m.values ++ [(s, path.text)] } where
  pending := holds.pending
  words := holds.words
  values := fun other => by
    rw [List.lookup_append, holds.values other]
    by_cases same : other = s
    · subst same
      simp [fresh, valued]
    · have differs : (other == s) = false := beq_false_of_ne same
      simp [same, differs, List.lookup_cons]
  on := fun other => by
    rw [holds.on other]
    by_cases same : other = s
    · subst same
      simp [off]
    · simp [same]

theorem Holds.turnedOn (holds : m.Holds line read words) (fresh : s ∉ read) (bare : line.path? s = none)
    (on : line.isOn s = true) : Holds line (read ++ [s]) words { m with on := s :: m.on } where
  pending := holds.pending
  words := holds.words
  values := fun other => by
    rw [holds.values other]
    by_cases same : other = s
    · subst same
      simp [fresh, bare]
    · simp [same]
  on := fun other => by
    rw [List.mem_cons, holds.on other, List.mem_append, List.mem_singleton]
    by_cases same : other = s
    · subst same
      simp [on]
    · simp [same]

theorem exists_step_option (switches : m.wordsOnly = false) (holds : m.Holds line read words)
    (known : s ∈ scope.switches) (given : line.Gives s) (fresh : s ∉ read)
    (full : ∀ path, line.path? s = some path → path.text ≠ "") :
    ∃ next, m.step scope (line.option s) = .ok next ∧ next.wordsOnly = false ∧
      next.Holds line (read ++ [s]) words := by
  rw [CommandLine.option, step_text switches, if_pos known]
  rcases given.path_or_on with ⟨path, valued, takes, off⟩ | ⟨bare, plain, on, noHelp, noVersion⟩
  · have unread : m.values.lookup s = none := by rw [holds.values, if_neg fresh]
    refine ⟨{ m with values := m.values ++ [(s, path.text)] }, ?_, switches, holds.assigned fresh valued off⟩
    rw [if_pos takes, valued]
    exact assign_of_nothing holds.pending unread (full path valued)
  · have unread : s ∉ m.on := fun mem => fresh ((holds.on s).mp mem).1
    refine ⟨{ m with on := s :: m.on }, ?_, switches, holds.turnedOn fresh bare on⟩
    rw [if_neg (by simp [plain]), bare, if_neg (by simp)]
    exact turnOn_of_nothing holds.pending unread noHelp noVersion

def run (scope : Scope) (arguments : List String) (m : Matched) : Except Refusal Matched :=
  arguments.foldlM (fun m argument => m.step scope argument) m

theorem exists_run (switches : m.wordsOnly = false) (holds : m.Holds line read words)
    (known : ∀ s ∈ given, s ∈ scope.switches ∧ line.Gives s) (once : (read ++ given).Nodup)
    (full : ∀ s path, line.path? s = some path → path.text ≠ "") :
    ∃ next, m.run scope (given.map line.option) = .ok next ∧ next.wordsOnly = false ∧
      next.Holds line (read ++ given) words := by
  induction given generalizing m read with
  | nil => exact ⟨m, rfl, switches, by simpa using holds⟩
  | cons s rest ih =>
    have fresh : s ∉ read := fun mem => (List.nodup_append.mp once).2.2 s mem s List.mem_cons_self rfl
    obtain ⟨isKnown, isGiven⟩ := known s List.mem_cons_self
    obtain ⟨middle, stepped, middleSwitches, middleHolds⟩ :=
      exists_step_option switches holds isKnown isGiven fresh (full s)
    obtain ⟨next, ran, nextSwitches, nextHolds⟩ := ih middleSwitches middleHolds
      (fun s mem => known s (List.mem_cons_of_mem _ mem)) (by simpa using once)
    refine ⟨next, ?_, nextSwitches, by simpa using nextHolds⟩
    rw [List.map_cons, run, List.foldlM_cons, stepped]
    exact ran

theorem exists_run_nothing (known : ∀ s ∈ given, s ∈ scope.switches ∧ line.Gives s) (once : given.Nodup)
    (full : ∀ s path, line.path? s = some path → path.text ≠ "") :
    ∃ next, run scope (given.map line.option) {} = .ok next ∧ next.wordsOnly = false ∧ next.Holds line given [] :=
  exists_run rfl (holds_nothing line) known once full

theorem readScope_append (first rest : List String) :
    readScope scope m (first ++ rest) = m.run scope first >>= fun next => readScope scope next rest := by
  induction first generalizing m with
  | nil => rfl
  | cons argument first ih =>
    rw [List.cons_append, readScope, run, List.foldlM_cons, bind_assoc]
    congr
    funext next
    exact ih

theorem readProgram_append (switches : List Switch) (rest : List String) :
    readProgram m (switches.map line.option ++ rest) =
      m.run .program (switches.map line.option) >>= fun next => readProgram next rest := by
  induction switches generalizing m with
  | nil => rfl
  | cons s switches ih =>
    rw [List.map_cons, List.cons_append, CommandLine.option, readProgram_text, run, List.foldlM_cons, bind_assoc]
    congr
    funext next
    exact ih

theorem readProgram_name (switches : m.wordsOnly = false) (pending : m.pending = .nothing) (rest : List String) :
    readProgram m (command.name :: rest) =
      readScope command.scope {} rest >>= fun matched => .ok (m, some (command.scope, matched)) := by
  rw [readProgram, command.ofName?_name]
  simp only [switches, awaitsValue, pending]
  rfl

end Reading

section Words

theorem settle_of_noSwitch (noSwitch : ∀ s value, m.pending ≠ .switch s value)
    (full : ∀ i : Nat, scope.words[i]? = some true → (m.words ++ m.waiting)[i]? ≠ some "") :
    m.settle scope = .ok { m with words := m.words ++ m.waiting, pending := .nothing } := by
  cases pending : m.pending with
  | nothing => simp [settle, waiting, pending]
  | switch s value => exact absurd pending (noSwitch s value)
  | word s =>
    have accepted : (s.isEmpty && (scope.words[m.words.length]?).getD false) = false := by
      by_contra both
      rw [Bool.not_eq_false, Bool.and_eq_true, String.isEmpty_iff, Option.getD_eq_iff] at both
      obtain ⟨rfl, isPath | ⟨-, impossible⟩⟩ := both
      · exact full _ isPath (by simp [waiting, pending])
      · cases impossible
    rw [settle, pending]
    simp only [accepted, Bool.false_eq_true, if_false, waiting, pending]

/-- Words are read one after another; each of them waits until the next one has been read. -/
theorem readScope_words (wordsOnly : m.wordsOnly = true) (noSwitch : ∀ s value, m.pending ≠ .switch s value)
    (count : (m.words ++ m.waiting ++ words).length = scope.words.length)
    (full : ∀ i : Nat, scope.words[i]? = some true → (m.words ++ m.waiting ++ words)[i]? ≠ some "") :
    readScope scope m words =
      ({ m with words := m.words ++ m.waiting ++ words, pending := .nothing } : Matched).finish scope := by
  -- the word that waits counts as read already; the next one takes its place
  induction words generalizing m with
  | nil =>
    rw [List.append_nil] at full
    rw [List.append_nil, readScope, finish, finish, settle_of_noSwitch noSwitch full, settle_of_nothing rfl]
  | cons word words ih =>
    have room : (m.words ++ m.waiting).length < scope.words.length := by
      simp only [List.length_append, List.length_cons] at count ⊢
      omega
    have settled : m.settle scope = .ok { m with words := m.words ++ m.waiting, pending := .nothing } := by
      refine settle_of_noSwitch noSwitch fun i isPath empty => full i isPath ?_
      rw [List.getElem?_append_left (List.getElem?_eq_some_iff.mp empty).1, empty]
    obtain ⟨refusal, -, read⟩ := exists_word_eq scope word m
    rw [readScope, step, if_pos wordsOnly, read, if_pos room, settled]
    have shape : m.words ++ m.waiting ++ word :: words = m.words ++ m.waiting ++ [word] ++ words := by simp
    rw [shape] at count full ⊢
    exact ih wordsOnly (by simp) count full

theorem exists_readScope_tail (asks : line.Asks command) (ends : command.EndsIn tail) (switches : m.wordsOnly = false)
    (holds : m.Holds line after []) :
    ∃ next : Matched, readScope command.scope m tail = next.finish command.scope ∧
      next.Holds line after command.words := by
  cases ends with
  | bare none => exact ⟨m, rfl, none ▸ holds⟩
  | separated =>
    have separator : m.step command.scope "--" = .ok { m with wordsOnly := true } := by
      rw [step, switches]
      rfl
    have shape : m.words ++ ({ m with wordsOnly := true } : Matched).waiting ++ command.words = command.words := by
      rw [waiting, holds.pending, holds.words]
      rfl
    refine ⟨{ m with words := command.words, wordsOnly := true, pending := .nothing }, ?_, ?_⟩
    · rw [readScope, separator]
      refine (readScope_words rfl ?_ ?_ ?_).trans ?_
      · simp [holds.pending]
      · exact (congrArg List.length shape).trans command.length_words
      · rw [shape]
        exact asks.ne_empty
      · simp only [shape]
    · exact ⟨rfl, rfl, holds.values, holds.on⟩

end Words

namespace Holds

theorem path?_eq (holds : m.Holds line read words) (s : Switch) :
    m.path? s = if s ∈ read then line.path? s else none := by
  rw [path?, holds.values]
  split
  · rw [Option.map_map]
    exact Option.map_id'
  · rfl

theorem isOn_eq (holds : m.Holds line read words) (s : Switch) : m.isOn s = (decide (s ∈ read) && line.isOn s) := by
  rw [Bool.eq_iff_iff, isOn, List.contains_iff_mem, holds.on, Bool.and_eq_true, decide_eq_true_iff]

theorem path?_of_own (orders : line.Orders before after) (holds : m.Holds line after words)
    (own : s ∉ Scope.program.switches) : m.path? s = line.path? s := by
  rw [holds.path?_eq]
  split
  next => rfl
  next absent => exact (CommandLine.path?_eq_none fun given => absent ((orders.mem_after own).mpr given)).symm

theorem isOn_of_own (orders : line.Orders before after) (holds : m.Holds line after words)
    (own : s ∉ Scope.program.switches) : m.isOn s = line.isOn s := by
  rw [holds.isOn_eq]
  by_cases given : s ∈ after
  · rw [decide_eq_true given, Bool.true_and]
  · rw [CommandLine.isOn_eq_false fun gives => given ((orders.mem_after own).mpr gives), Bool.and_false]

theorem path?_or (orders : line.Orders before after) (outerHolds : outer.Holds line before [])
    (innerHolds : inner.Holds line after words) (s : Switch) :
    (inner.path? s <|> outer.path? s) = line.path? s := by
  rw [innerHolds.path?_eq, outerHolds.path?_eq]
  by_cases given : line.Gives s
  · rcases List.mem_append.mp ((orders.given s).mpr given) with mem | mem
    · rw [if_pos mem]
      split <;> cases line.path? s <;> rfl
    · rw [if_pos mem]
      split <;> cases line.path? s <;> rfl
  · rw [CommandLine.path?_eq_none given, ite_self, ite_self]
    rfl

theorem isOn_or (orders : line.Orders before after) (outerHolds : outer.Holds line before [])
    (innerHolds : inner.Holds line after words) (s : Switch) : (outer.isOn s || inner.isOn s) = line.isOn s := by
  rw [innerHolds.isOn_eq, outerHolds.isOn_eq, ← Bool.and_or_distrib_right]
  by_cases given : line.Gives s
  · have somewhere : (decide (s ∈ before) || decide (s ∈ after)) = true := by
      simpa using List.mem_append.mp ((orders.given s).mpr given)
    rw [somewhere, Bool.true_and]
  · rw [CommandLine.isOn_eq_false given, Bool.and_false]

theorem finish_program (orders : line.Orders before after) (holds : m.Holds line before []) :
    m.finish .program = .ok m := by
  have unread : Switch.templates ∉ before := fun mem => absurd (orders.forAny _ mem) (by decide)
  have one : ¬ m.HasBoth := by
    intro both
    have templates := both.1
    rw [holds.values, if_neg unread] at templates
    cases templates
  have count : m.words.length = Scope.program.words.length := congrArg List.length holds.words
  rw [finish_of_nothing holds.pending count, if_neg one]

theorem finish_command (orders : line.Orders before after) (holds : m.Holds line after command.words) :
    m.finish command.scope = if line.HasTwoSources then .error .conflict else .ok m := by
  have count : m.words.length = command.scope.words.length := by rw [holds.words, command.length_words]
  have sources : m.HasBoth ↔ line.HasTwoSources := by
    unfold HasBoth CommandLine.HasTwoSources
    rw [← holds.path?_of_own orders (s := .templates) (by decide), ← holds.path?_of_own orders (s := .bundle) (by decide),
      path?, path?, Option.isSome_map, Option.isSome_map]
  rw [finish_of_nothing holds.pending count]
  simp only [sources]

theorem command?_eq (asks : line.Asks command) (orders : line.Orders before after)
    (holds : m.Holds line after command.words) : m.command? command.scope = some command := by
  have path (s : Switch) (own : s ∉ Scope.program.switches) := holds.path?_of_own orders own
  have on (s : Switch) (own : s ∉ Scope.program.switches) := holds.isOn_of_own orders own
  have asked := asks.asked
  cases command with
  | build folder output minified watch =>
    simp only [command?, Command.scope, holds.words, Command.words, on .minified (by decide), on .watch (by decide)]
    simp [CommandLine.isOn, asked]
  | render name templates bundle data minified =>
    simp only [command?, Command.scope, holds.words, Command.words, on .minified (by decide),
      path .templates (by decide), path .bundle (by decide), path .data (by decide)]
    simp [CommandLine.isOn, CommandLine.path?, asked]
  | list templates =>
    simp only [command?, Command.scope, holds.words, Command.words, path .templates (by decide)]
    simp [CommandLine.path?, asked]

end Holds

end Matched

namespace CommandLine

variable {line : CommandLine} {command : Command} {before after : List Switch} {tail : List String}

theorem ofArguments_write (asks : line.Asks command) (orders : line.Orders before after) (ends : command.EndsIn tail) :
    ofArguments (line.write command before after tail) =
      if line.HasTwoSources then .error .conflict else .ok line := by
  have forAny : ∀ s ∈ before, s ∈ Scope.program.switches ∧ line.Gives s := fun s mem =>
    ⟨orders.forAny s mem, (orders.given s).mp (List.mem_append_left _ mem)⟩
  have own : ∀ s ∈ after, s ∈ command.scope.switches ∧ line.Gives s := fun s mem =>
    have given := (orders.given s).mp (List.mem_append_right _ mem)
    ⟨asks.mem_switches given, given⟩
  -- the program and the command are read apart, each from nothing, and put together in the end
  obtain ⟨outer, outerRan, outerSwitches, outerHolds⟩ :=
    Matched.exists_run_nothing forAny (List.Nodup.of_append_left orders.once) asks.options
  obtain ⟨middle, middleRan, middleSwitches, middleHolds⟩ :=
    Matched.exists_run_nothing own (List.Nodup.of_append_right orders.once) asks.options
  obtain ⟨inner, tailRan, innerHolds⟩ := Matched.exists_readScope_tail asks ends middleSwitches middleHolds
  have innerRan : readScope command.scope {} (after.map line.option ++ tail) = inner.finish command.scope := by
    rw [Matched.readScope_append, middleRan]
    exact tailRan
  have read : readProgram {} (line.write command before after tail) =
      if line.HasTwoSources then .error .conflict else .ok (outer, some (command.scope, inner)) := by
    rw [write, Matched.readProgram_append, outerRan]
    refine (Matched.readProgram_name outerSwitches outerHolds.pending _).trans ?_
    rw [innerRan, innerHolds.finish_command orders]
    split <;> rfl
  rw [ofArguments, read]
  split
  · rfl
  · have root := Matched.Holds.path?_or orders outerHolds innerHolds .path
    have verbose := Matched.Holds.isOn_or orders outerHolds innerHolds .verbose
    have noColor := Matched.Holds.isOn_or orders outerHolds innerHolds .noColor
    change outer.finish .program >>= _ = _
    rw [outerHolds.finish_program orders]
    change Except.ok _ = Except.ok _
    rw [innerHolds.command?_eq asks orders, root, verbose, noColor, ← asks.asked]
    rfl

/-- Written arguments are read as the command line that they were written for. Arguments that name both sources
of templates are refused, whatever else is given before or after, and with the status of an error unless help
or the version is asked for; behind two hyphens there are only words, which name nothing. -/
theorem ofArguments_written :
    (∀ (line : CommandLine) (command : Command) (before after : List Switch) (tail : List String),
      line.Asks command → ¬ line.HasTwoSources → line.Orders before after → command.EndsIn tail →
        ofArguments (line.write command before after tail) = .ok line) ∧
      ∀ given rest : List String, "--" ∉ given → Matched.NamesBoth given →
        ∃ refusal, ofArguments (given ++ rest) = .error refusal ∧
          ((∀ argument ∈ given ++ rest, asksForHelp argument = false) → refusal.exitCode = 2) := by
  constructor
  · intro line command before after tail asks oneSource orders ends
    rw [ofArguments_write asks orders ends, if_neg oneSource]
  · intro given rest noSeparator both
    cases read : ofArguments (given ++ rest) with
    | error refusal => exact ⟨refusal, rfl, fun quiet => isError_ofArguments quiet refusal read⟩
    | ok line =>
      obtain ⟨result, ran, -⟩ := Result.bind_eq_ok_iff.mp read
      exact absurd ran (Matched.readProgram_ne_ok rfl noSeparator both)

/-- A page, a folder and a value that look like switches are written and read, and a bundle beside the folder
is refused. -/
theorem ofArguments_written_hyphens :
    ofArguments ["--verbose", "render", "--templates=-t=x", "--path=--data", "--", "--bundle"] =
        .ok ⟨some (.render "--bundle" (some ⟨"-t=x"⟩) none none false), some ⟨"--data"⟩, true, false⟩ ∧
      ∃ refusal, ofArguments (["render", "--bundle=b", "home", "--templates"] ++ ["t"]) = .error refusal ∧
        refusal.exitCode = 2 := by
  let command : Command := .render "--bundle" (some ⟨"-t=x"⟩) none none false
  let line : CommandLine := ⟨some command, some ⟨"--data"⟩, true, false⟩
  have asks : line.Asks command := by
    refine ⟨rfl, fun s path given => ?_, fun _ _ _ _ other => nomatch other⟩
    cases s <;> simp_all [path?, line, command] <;> subst given <;> decide
  have orders : line.Orders [.verbose] [.templates, .path] := by
    refine ⟨by decide, fun s => ?_, by decide⟩
    cases s <;> decide
  obtain ⟨refusal, refused, error⟩ := ofArguments_written.2 ["render", "--bundle=b", "home", "--templates"] ["t"]
    (by decide) ⟨⟨_, by decide, none, rfl⟩, ⟨_, by decide, some "b", rfl⟩⟩
  exact ⟨ofArguments_written.1 line command _ _ _ asks (by decide) orders .separated, refusal, refused,
    error (by decide)⟩

end CommandLine

end BlockTemplates
