import Micro86.Command.Standard
import Micro86.Proofs.CommandLine

/-!
# The reader of arguments

A draft `Tells` what has been said so far, and each argument `Adds` to it what it says, once the
value that it waits for is known. So the reader of this library gives the options that the arguments
ask for: `reads_ofTexts`.
-/

namespace Micro86.Command

theorem Opt.eq_long_of_ofLong? {name : String} {o : Opt} (found : Opt.ofLong? name = some o) :
    name = o.long := by
  have found := List.find?_some found
  exact (beq_iff_eq.mp found).symm

theorem Opt.short?_of_ofShort? {c : Char} {o : Opt} (found : Opt.ofShort? c = some o) :
    o.short? = some c := by
  have found := List.find?_some found
  exact beq_iff_eq.mp found

namespace Draft

/-- Whether a draft tells what was said so far. -/
structure Tells (items : List Item) (d : Draft) : Prop where
  path : ∀ path, .input path ∈ items ↔ d.path? = some path
  verbosity : d.verbosity.toNat = min (items.count .verbose) 255
  format : ∀ f, .format f ∈ items ↔ f ∈ d.formats
  limit : ∀ n, .limit n ∈ items ↔ d.limit? = some n
  exitCode : .exitCode ∈ items ↔ d.exitCode = true
  shell : ∀ s, .shell s ∈ items ↔ d.shell? = some s

/-- The draft once something more has been said. -/
def put (d : Draft) : Item → Draft
  | .verbose => d.addVerbose
  | .format f => { d with formats := d.formats ++ [f] }
  | .exitCode => { d with exitCode := true }
  | .limit n => { d with limit? := some n }
  | .shell s => { d with shell? := some s }
  | .input path => { d with path? := some path }

/-- Whether nothing has been said that this would replace. -/
def Free (d : Draft) : Item → Prop
  | .limit _ => d.limit? = none
  | .shell _ => d.shell? = none
  | .input _ => d.path? = none
  | .verbose | .format _ | .exitCode => True

/-- Whether a draft tells more than another, and these items are the more. -/
def Adds (d : Draft) (items : List Item) (e : Draft) : Prop :=
  ∀ ⦃said⦄, d.Tells said → e.Tells (said ++ items)

/-- Whether an option waits for a value. -/
def Valued (o : Opt) : Prop :=
  o = .maxSteps ∨ o = .completions

variable {d e f : Draft} {o : Options} {item : Item} {items more : List Item} {argument : String}

section Telling

theorem toNat_addVerbose (d : Draft) :
    d.addVerbose.verbosity.toNat = min (d.verbosity.toNat + 1) 255 := by
  have := d.verbosity.toNat_lt
  unfold addVerbose
  split
  · next full => simp [full]
  · next room =>
    have other : d.verbosity.toNat ≠ 255 := fun full => room (UInt8.toNat_inj.mp full)
    simp only [UInt8.toNat_add, UInt8.reduceToNat]
    omega

theorem adds_put (free : d.Free item) : d.Adds [item] (d.put item) := by
  intro said h
  constructor
  case path =>
    intro path
    rw [List.mem_append, List.mem_singleton, h.path]
    cases item with
    | input => simp [Draft.put, show d.path? = none from free, eq_comm]
    | verbose | format | exitCode | limit | shell => simp [Draft.put, addVerbose]
  case verbosity =>
    rw [List.count_append]
    cases item with
    | verbose =>
      rw [Draft.put, toNat_addVerbose, h.verbosity, List.count_singleton_self]
      omega
    | format | exitCode | limit | shell | input => simp [Draft.put, h.verbosity]
  case format =>
    intro f
    rw [List.mem_append, List.mem_singleton, h.format]
    cases item <;> simp [Draft.put, addVerbose]
  case limit =>
    intro n
    rw [List.mem_append, List.mem_singleton, h.limit]
    cases item with
    | limit => simp [Draft.put, show d.limit? = none from free, eq_comm]
    | verbose | format | exitCode | shell | input => simp [Draft.put, addVerbose]
  case exitCode =>
    rw [List.mem_append, List.mem_singleton, h.exitCode]
    cases item <;> simp [Draft.put, addVerbose]
  case shell =>
    intro s
    rw [List.mem_append, List.mem_singleton, h.shell]
    cases item with
    | shell => simp [Draft.put, show d.shell? = none from free, eq_comm]
    | verbose | format | exitCode | limit | input => simp [Draft.put, addVerbose]

theorem Adds.refl (d : Draft) : d.Adds [] d := by
  intro said h
  rwa [List.append_nil]

theorem Adds.trans (first : d.Adds items e) (second : e.Adds more f) :
    d.Adds (items ++ more) f := by
  intro said h
  rw [← List.append_assoc]
  exact second (first h)

theorem Adds.put (free : d.Free item) (rest : (d.put item).Adds items e) :
    d.Adds (item :: items) e :=
  (adds_put free).trans rest

/-- What a draft waits for is not told yet. -/
theorem Adds.waiting {pending? : Option (Opt × Option String)} {onlyInput : Bool}
    (adds : Adds { d with pending?, onlyInput } items e) : d.Adds items e := by
  intro said h
  exact adds ⟨h.path, h.verbosity, h.format, h.limit, h.exitCode, h.shell⟩

@[simp]
theorem pending_put (d : Draft) (item : Item) : (d.put item).pending? = d.pending? := by
  cases item <;> rfl

@[simp]
theorem onlyInput_put (d : Draft) (item : Item) : (d.put item).onlyInput = d.onlyInput := by
  cases item <;> rfl

end Telling

section Reading

theorem bind_eq_ok {α β : Type} {x : Except Stop α} {f : α → Except Stop β} {b : β}
    (binds : (x >>= f) = .ok b) : ∃ a, x = .ok a ∧ f a = .ok b := by
  cases x with
  | error => cases binds
  | ok a => exact ⟨a, rfl, binds⟩

theorem settle_of_none (idle : d.pending? = none) : d.settle = .ok d := by
  rw [settle, idle]

theorem addFormat_eq_ok {format : Format} (adds : d.addFormat format = .ok e) :
    e = d.put (.format format) := by
  unfold addFormat at adds
  split at adds
  · cases adds
  · cases adds
    rfl

/-- An option without a value says something, and one with a value waits. -/
theorem addOption_eq_ok {o : Opt} (idle : d.pending? = none) (adds : d.addOption o = .ok e) :
    (∃ item, o.item? = some item ∧ d.Free item ∧ e = d.put item) ∨
      Valued o ∧ e = { d with pending? := some (o, none) } := by
  rw [addOption, settle_of_none idle] at adds
  cases o with
  | verbose =>
    cases adds
    exact .inl ⟨.verbose, rfl, trivial, rfl⟩
  | color => exact .inl ⟨.format .color, rfl, trivial, addFormat_eq_ok adds⟩
  | noColor => exact .inl ⟨.format .noColor, rfl, trivial, addFormat_eq_ok adds⟩
  | json => exact .inl ⟨.format .json, rfl, trivial, addFormat_eq_ok adds⟩
  | exitCode =>
    change (if d.exitCode then _ else _) = _ at adds
    split at adds
    · cases adds
    · cases adds
      exact .inl ⟨.exitCode, rfl, trivial, rfl⟩
  | help | version => cases adds
  | maxSteps =>
    cases adds
    exact .inr ⟨.inl rfl, rfl⟩
  | completions =>
    cases adds
    exact .inr ⟨.inr rfl, rfl⟩

theorem assign_eq_ok_iff {o : Opt} {value : String} (valued : Valued o) :
    d.assign o value = .ok e ↔ ∃ item, o.itemOf? value = some item ∧ d.Free item ∧
      e = d.put item := by
  rcases valued with rfl | rfl
  · simp only [assign, Opt.itemOf?]
    cases unset : d.limit? with
    | some => cases Number.read value.toList <;> simp [refuse, Except.toOption, Free, unset]
    | none =>
      cases Number.read value.toList <;>
        simp [refuse, Except.toOption, Free, unset, Draft.put, eq_comm]
  · simp only [assign, Opt.itemOf?]
    cases unset : d.shell? with
    | some => cases Shell.ofName? value <;> simp [refuse, Free, unset]
    | none => cases Shell.ofName? value <;> simp [refuse, Free, unset, Draft.put, eq_comm]

/-- The value that was waited for says something when it is judged. -/
theorem settle_eq_ok_iff {o : Opt} {value : String} (valued : Valued o)
    (waits : d.pending? = some (o, some value)) :
    d.settle = .ok e ↔ ∃ item, o.itemOf? value = some item ∧ Free { d with pending? := none } item ∧
      e = put { d with pending? := none } item := by
  rw [settle, waits]
  exact assign_eq_ok_iff valued

theorem addInput_eq_ok_iff {path : String} :
    d.addInput path = .ok f ↔ d.path? = none ∧
      (d.settle.map fun e => e.put (.input path)) = .ok f := by
  rw [addInput]
  cases d.path? with
  | some => exact ⟨nofun, fun h => nomatch h.1⟩
  | none =>
    rw [if_neg nofun, eq_self_iff_true, true_and]
    cases d.settle <;> rfl

theorem addInput_eq_ok {path : String} (idle : d.pending? = none)
    (adds : d.addInput path = .ok e) : d.Free (.input path) ∧ e = d.put (.input path) := by
  obtain ⟨unset, adds⟩ := addInput_eq_ok_iff.mp adds
  rw [settle_of_none idle] at adds
  cases adds
  exact ⟨unset, rfl⟩

theorem addLong_eq_ok_iff {name : String} :
    d.addLong name none = .ok e ↔ ∃ o, Opt.ofLong? name = some o ∧ d.addOption o = .ok e := by
  cases found : Opt.ofLong? name with
  | none => simp [addLong, found, refuse]
  | some o => simp [addLong, found]

theorem addLong_value_eq_ok_iff {name value : String} :
    d.addLong name (some value) = .ok f ↔
      ∃ o e, Opt.ofLong? name = some o ∧ Valued o ∧ d.settle = .ok e ∧
        e.assign o value = .ok f := by
  cases found : Opt.ofLong? name with
  | none => simp [addLong, found, refuse]
  | some o =>
    have valued : o.value?.isNone = false ↔ Valued o := by cases o <;> simp [Opt.value?, Valued]
    simp only [addLong, found, Option.some.injEq, exists_and_left, exists_eq_left', ← valued]
    cases o.value?.isNone <;> cases d.settle <;> simp [refuse, bind, Except.bind]

theorem addShort_eq_ok_iff {c : Char} {cs : List Char} :
    d.addShort (c :: cs) = .ok f ↔
      ∃ o e, Opt.ofShort? c = some o ∧ d.addOption o = .ok e ∧ e.addShort cs = .ok f := by
  rw [addShort]
  cases Opt.ofShort? c with
  | none => simp [refuse]
  | some o => cases adds : d.addOption o <;> simp [adds, bind, Except.bind]

theorem addShort_eq_ok {letters : List Char} (idle : d.pending? = none)
    (adds : d.addShort letters = .ok e) :
    ∃ opts said, List.map Opt.short? opts = letters.map some ∧
      List.map Opt.item? opts = said.map some ∧ d.Adds said e ∧ e.pending? = none ∧
      e.onlyInput = d.onlyInput := by
  induction letters generalizing d with
  | nil =>
    cases adds
    exact ⟨[], [], rfl, rfl, .refl _, idle, rfl⟩
  | cons c letters ih =>
    obtain ⟨o, between, found, first, rest⟩ := addShort_eq_ok_iff.mp adds
    have letter := Opt.short?_of_ofShort? found
    rcases addOption_eq_ok idle first with ⟨item, means, free, rfl⟩ | ⟨rfl | rfl, -⟩
    · rw [← pending_put d item] at idle
      obtain ⟨opts, said, spell, all, more, still, same⟩ := ih idle rest
      refine ⟨o :: opts, item :: said, ?_, ?_, .put free more, still, ?_⟩
      · rw [List.map_cons, List.map_cons, letter, spell]
      · rw [List.map_cons, List.map_cons, means, all]
      · rw [same, onlyInput_put]
    · cases letter
    · cases letter

/-- What an argument may be taken for, and what becomes of the draft. -/
inductive Takes (d : Draft) : String → Draft → Prop where
  | only {path : String} {e : Draft} (only : d.onlyInput = true) (adds : d.addInput path = .ok e) :
      Takes d path e
  | dashes (mixed : d.onlyInput = false) : Takes d "--" { d with onlyInput := true }
  | long {name : String} {e : Draft} (mixed : d.onlyInput = false)
      (adds : d.addLong name none = .ok e) : Takes d ("--" ++ name) e
  | assigned {name value : String} {e : Draft} (mixed : d.onlyInput = false)
      (adds : d.addLong name (some value) = .ok e) : Takes d ("--" ++ name ++ "=" ++ value) e
  | short {letters : List Char} {e : Draft} (mixed : d.onlyInput = false) (some : letters ≠ [])
      (adds : d.addShort letters = .ok e) : Takes d (String.ofList ('-' :: letters)) e
  | plain {argument : String} {e : Draft} (mixed : d.onlyInput = false) (plain : Plain argument)
      (adds : d.addPlain argument = .ok e) : Takes d argument e

theorem takes_of_add (adds : d.add argument = .ok e) : d.Takes argument e := by
  rw [add] at adds
  split at adds
  · next only => exact .only only adds
  · next other =>
    have mixed : d.onlyInput = false := Bool.eq_false_iff.mpr other
    have spells := Argument.spells_ofString argument
    generalize Argument.ofString argument = kind at adds spells
    cases spells with
    | dashes =>
      cases adds
      exact .dashes mixed
    | long => exact .long mixed adds
    | assigned => exact .assigned mixed adds
    | short some => exact .short mixed some adds
    | plain plain => exact .plain mixed plain adds

end Reading

section Waiting

/-- What judging the value that was waited for leaves as it is. -/
structure Settles (d e : Draft) : Prop where
  settle : d.settle = .ok e
  idle : e.pending? = none
  path : e.path? = d.path?
  onlyInput : e.onlyInput = d.onlyInput

theorem settles_of_settle {o : Opt} {value : String} (valued : Valued o)
    (waits : d.pending? = some (o, some value)) (settle : d.settle = .ok e) : d.Settles e := by
  obtain ⟨item, means, -, rfl⟩ := (settle_eq_ok_iff valued waits).mp settle
  refine ⟨settle, pending_put _ item, ?_, onlyInput_put _ item⟩
  cases item with
  | input path =>
    rcases valued with rfl | rfl
    · simp [Opt.itemOf?] at means
    · simp [Opt.itemOf?] at means
  | verbose | format | exitCode | limit | shell => rfl

/-- That all that follows is input does not matter to the value that is waited for. -/
theorem settle_only {o : Opt} {value : String} (valued : Valued o)
    (waits : d.pending? = some (o, some value))
    (settle : Draft.settle { d with onlyInput := true } = .ok f) :
    ∃ e, d.settle = .ok e ∧ f = { e with onlyInput := true } := by
  have also : Draft.pending? { d with onlyInput := true } = some (o, some value) := waits
  obtain ⟨item, means, free, rfl⟩ := (settle_eq_ok_iff valued also).mp settle
  refine ⟨_, (settle_eq_ok_iff valued waits).mpr ⟨item, means, ?_, rfl⟩, ?_⟩
  · cases item <;> exact free
  · cases item <;> rfl

theorem addInput_settled {path : String} (adds : d.addInput path = .ok f) :
    ∃ e, d.settle = .ok e ∧ (d.Settles e → e.addInput path = .ok f) := by
  obtain ⟨unset, adds⟩ := addInput_eq_ok_iff.mp adds
  cases settle : d.settle with
  | error => rw [settle] at adds; cases adds
  | ok e =>
    rw [settle] at adds
    refine ⟨e, rfl, fun settles => ?_⟩
    rw [addInput_eq_ok_iff, settles.path, settle_of_none settles.idle]
    exact ⟨unset, adds⟩

theorem addOption_settled {o : Opt} (adds : d.addOption o = .ok f) :
    ∃ e, d.settle = .ok e ∧ (d.Settles e → e.addOption o = .ok f) := by
  rw [addOption] at adds
  obtain ⟨e, settle, rest⟩ := bind_eq_ok adds
  refine ⟨e, settle, fun settles => ?_⟩
  rw [addOption, settle_of_none settles.idle]
  exact rest

/-- An argument is taken for the value that is waited for, or is two signs alone, or has the value
judged that came before it. -/
theorem Takes.settled (takes : d.Takes argument f) :
    (argument = "--" ∧ d.onlyInput = false ∧ f = { d with onlyInput := true }) ∨
    (∃ o, d.pending? = some (o, none) ∧ d.onlyInput = false ∧
      f = { d with pending? := some (o, some argument) }) ∨
    ∃ e, d.settle = .ok e ∧ (d.Settles e → e.Takes argument f) := by
  cases takes with
  | only only adds =>
    obtain ⟨e, settle, again⟩ := addInput_settled adds
    refine .inr (.inr ⟨e, settle, fun settles => .only ?_ (again settles)⟩)
    rw [settles.onlyInput, only]
  | dashes mixed => exact .inl ⟨rfl, mixed, rfl⟩
  | long mixed adds =>
    obtain ⟨o, found, adds⟩ := addLong_eq_ok_iff.mp adds
    obtain ⟨e, settle, again⟩ := addOption_settled adds
    refine .inr (.inr ⟨e, settle, fun settles => .long (settles.onlyInput.trans mixed) ?_⟩)
    exact addLong_eq_ok_iff.mpr ⟨o, found, again settles⟩
  | assigned mixed adds =>
    obtain ⟨o, e, found, valued, settle, assigns⟩ := addLong_value_eq_ok_iff.mp adds
    refine .inr (.inr ⟨e, settle, fun settles => .assigned (settles.onlyInput.trans mixed) ?_⟩)
    exact addLong_value_eq_ok_iff.mpr ⟨o, e, found, valued, settle_of_none settles.idle, assigns⟩
  | @short letters _ mixed some adds =>
    cases letters with
    | nil => exact absurd rfl some
    | cons c letters =>
      obtain ⟨o, g, found, first, rest⟩ := addShort_eq_ok_iff.mp adds
      obtain ⟨e, settle, again⟩ := addOption_settled first
      refine .inr (.inr ⟨e, settle, fun settles => .short (settles.onlyInput.trans mixed) some ?_⟩)
      exact addShort_eq_ok_iff.mpr ⟨o, g, found, again settles, rest⟩
  | plain mixed plain adds =>
    rw [addPlain] at adds
    split at adds
    · next o waits =>
      cases adds
      exact .inr (.inl ⟨o, waits, mixed, rfl⟩)
    · obtain ⟨e, settle, again⟩ := addInput_settled adds
      refine .inr (.inr ⟨e, settle, fun settles => .plain (settles.onlyInput.trans mixed) plain ?_⟩)
      rw [addPlain, settles.idle]
      exact again settles

end Waiting

/-- What becomes of a draft at the end of a line. -/
inductive Passes : Draft → List String → Draft → Prop where
  | done {d e : Draft} (settle : d.settle = .ok e) : Passes d [] e
  | more {d e f : Draft} {argument : String} {line : List String} (takes : d.Takes argument f)
      (rest : Passes f line e) : Passes d (argument :: line) e

variable {line : List String}

theorem passes_of_foldlM (reads : (line.foldlM add d >>= settle) = .ok e) : d.Passes line e := by
  induction line generalizing d with
  | nil => exact .done reads
  | cons argument line ih =>
    rw [List.foldlM_cons, bind_assoc] at reads
    obtain ⟨f, adds, rest⟩ := bind_eq_ok reads
    exact .more (takes_of_add adds) (ih rest)

/-- A value may be judged before the rest of the line is read. -/
theorem Passes.settled {o : Opt} {value : String} (passes : d.Passes line e) (valued : Valued o)
    (waits : d.pending? = some (o, some value)) : ∃ f, d.Settles f ∧ f.Passes line e := by
  induction passes with
  | done settle =>
    have settles := settles_of_settle valued waits settle
    exact ⟨_, settles, .done (settle_of_none settles.idle)⟩
  | @more d e g argument line takes rest ih =>
    rcases takes.settled with ⟨rfl, mixed, rfl⟩ | ⟨o', unset, -⟩ | ⟨f, settle, again⟩
    · obtain ⟨_, settles, rest⟩ := ih waits
      obtain ⟨f, settle, rfl⟩ := settle_only valued waits settles.settle
      have settles := settles_of_settle valued waits settle
      exact ⟨f, settles, .more (.dashes (settles.onlyInput.trans mixed)) rest⟩
    · rw [waits] at unset
      cases unset
    · have settles := settles_of_settle valued waits settle
      exact ⟨f, settles, .more (again settles) rest⟩

/-- What is said by what follows, where options may follow or only input. -/
def Rest (onlyInput : Bool) (items : List Item) (line : List String) : Prop :=
  if onlyInput then items = line.map .input else Says items line

theorem rest_mixed (mixed : d.onlyInput = false) :
    Rest d.onlyInput items line ↔ Says items line := by
  rw [mixed]
  rfl

theorem rest_only (only : d.onlyInput = true) :
    Rest d.onlyInput items line ↔ items = line.map .input := by
  rw [only]
  rfl

theorem rest_nil : Rest d.onlyInput [] [] := by
  cases only : d.onlyInput with
  | false => exact .nil
  | true => rfl

/-- Where no value is waited for, an argument says something, or is two signs alone, or
waits for a value. -/
theorem Takes.idle (takes : d.Takes argument f) (idle : d.pending? = none) :
    (∃ said, d.Adds said f ∧ f.pending? = none ∧ f.onlyInput = d.onlyInput ∧
      ∀ {items line}, Rest d.onlyInput items line →
        Rest d.onlyInput (said ++ items) (argument :: line)) ∨
    (argument = "--" ∧ d.onlyInput = false ∧ f = { d with onlyInput := true }) ∨
    ∃ o, Valued o ∧ argument = "--" ++ o.long ∧ d.onlyInput = false ∧
      f = { d with pending? := some (o, none) } := by
  have one {item : Item} (free : d.Free item)
      (rest : ∀ {items line}, Rest d.onlyInput items line →
        Rest d.onlyInput (item :: items) (argument :: line)) :
      ∃ said, d.Adds said (d.put item) ∧ (d.put item).pending? = none ∧
        (d.put item).onlyInput = d.onlyInput ∧
        ∀ {items line}, Rest d.onlyInput items line →
          Rest d.onlyInput (said ++ items) (argument :: line) :=
    ⟨[item], adds_put free, (pending_put d item).trans idle, onlyInput_put d item, rest⟩
  cases takes with
  | only only adds =>
    obtain ⟨free, rfl⟩ := addInput_eq_ok idle adds
    refine .inl (one free fun {items line} rest => ?_)
    rw [rest_only only] at rest ⊢
    rw [rest]
    rfl
  | dashes mixed => exact .inr (.inl ⟨rfl, mixed, rfl⟩)
  | long mixed adds =>
    obtain ⟨o, found, option⟩ := addLong_eq_ok_iff.mp adds
    obtain rfl := Opt.eq_long_of_ofLong? found
    rcases addOption_eq_ok idle option with ⟨item, means, free, rfl⟩ | ⟨valued, rfl⟩
    · refine .inl (one free fun {items line} rest => ?_)
      rw [rest_mixed mixed] at rest ⊢
      exact .long means rest
    · exact .inr (.inr ⟨o, valued, rfl, mixed, rfl⟩)
  | assigned mixed adds =>
    obtain ⟨o, e, found, valued, settle, assigns⟩ := addLong_value_eq_ok_iff.mp adds
    obtain rfl := Opt.eq_long_of_ofLong? found
    rw [settle_of_none idle] at settle
    cases settle
    obtain ⟨item, means, free, rfl⟩ := (assign_eq_ok_iff valued).mp assigns
    refine .inl (one free fun {items line} rest => ?_)
    rw [rest_mixed mixed] at rest ⊢
    exact .assigned means rest
  | short mixed some adds =>
    obtain ⟨opts, said, spell, means, all, still, same⟩ := addShort_eq_ok idle adds
    refine .inl ⟨said, all, still, same, fun {items line} rest => ?_⟩
    rw [rest_mixed mixed] at rest ⊢
    refine .short (fun none => some ?_) spell means rest
    rw [none] at spell
    exact List.map_eq_nil_iff.mp spell.symm
  | plain mixed plain adds =>
    rw [addPlain, idle] at adds
    obtain ⟨free, rfl⟩ := addInput_eq_ok idle adds
    refine .inl (one free fun {items line} rest => ?_)
    rw [rest_mixed mixed] at rest ⊢
    exact .input plain rest

/-- What is told at the end of a line more than before it is what the line says. -/
theorem Passes.told (passes : d.Passes line e) :
    (d.pending? = none → ∃ items, Rest d.onlyInput items line ∧ d.Adds items e) ∧
    ∀ o, Valued o → d.pending? = some (o, none) → d.onlyInput = false ∧
      ∃ value item items rest, line = value :: rest ∧ o.itemOf? value = some item ∧
        Says items rest ∧ d.Adds (item :: items) e := by
  -- A draft that waits for a value takes the next argument for it, which can be judged at once.
  induction line generalizing d with
  | nil =>
    cases passes with
    | done settle =>
      refine ⟨fun idle => ?_, fun o _ waits => ?_⟩
      · rw [settle_of_none idle] at settle
        cases settle
        exact ⟨[], rest_nil, .refl _⟩
      · rw [Draft.settle, waits] at settle
        cases settle
  | cons argument line ih =>
    cases passes with
    | @more _ _ f _ _ takes rest =>
      refine ⟨fun idle => ?_, fun o valued waits => ?_⟩
      · rcases takes.idle idle with
          ⟨said, adds, still, same, means⟩ | ⟨rfl, mixed, rfl⟩ | ⟨o, valued, rfl, mixed, rfl⟩
        · obtain ⟨items, more, all⟩ := (ih rest).1 still
          rw [same] at more
          exact ⟨said ++ items, means more, adds.trans all⟩
        · obtain ⟨items, more, all⟩ := (ih rest).1 idle
          cases (rest_only rfl).mp more
          exact ⟨_, (rest_mixed mixed).mpr (.inputs line), all.waiting⟩
        · obtain ⟨-, value, item, items, line, rfl, means, more, all⟩ := (ih rest).2 o valued rfl
          exact ⟨_, (rest_mixed mixed).mpr (.value means more), all.waiting⟩
      · rcases takes.settled with ⟨rfl, mixed, rfl⟩ | ⟨o', same, mixed, rfl⟩ | ⟨f, settle, -⟩
        · cases ((ih rest).2 o valued waits).1
        · cases waits.symm.trans same
          obtain ⟨g, settles, rest⟩ := rest.settled valued rfl
          obtain ⟨item, means, free, rfl⟩ := (settle_eq_ok_iff valued rfl).mp settles.settle
          obtain ⟨items, more, all⟩ := (ih rest).1 settles.idle
          rw [rest_mixed (settles.onlyInput.trans mixed)] at more
          have told : d.Adds (item :: items) e := .waiting (.put free all)
          exact ⟨mixed, argument, item, items, line, rfl, means, more, told⟩
        · rw [Draft.settle, waits] at settle
          cases settle

theorem tells_nil : Tells [] {} where
  path := by simp
  verbosity := rfl
  format := by simp
  limit := by simp
  exitCode := by simp
  shell := by simp

theorem finish_eq_ok (finish : d.finish = .ok o) :
    o = d.options ∧ d.formats.length ≤ 1 ∧ (d.shell? = none → ∃ path, d.path? = some path) := by
  unfold Draft.finish at finish
  split at finish
  · next s shell =>
    split at finish
    · next alone =>
      cases finish
      refine ⟨rfl, ?_, fun none => absurd (none.symm.trans shell) nofun⟩
      rw [count] at alone
      omega
    · cases finish
  · cases finish
  · cases finish
  · cases finish
  · next path _ given few many =>
    cases finish
    refine ⟨rfl, ?_, fun _ => ⟨path, given⟩⟩
    match formats : d.formats with
    | [] | [_] => simp
    | [f, g] => exact absurd formats (few f g)
    | f :: g :: h :: more => exact absurd formats (many f g _)

/-- The options are what is told, if the arguments go together. -/
theorem Tells.finish (tells : d.Tells items) (finish : d.finish = .ok o) : o.SaidBy items := by
  obtain ⟨rfl, few, complete⟩ := finish_eq_ok finish
  constructor
  case path => exact tells.path
  case verbosity => exact tells.verbosity
  case format =>
    intro f
    rw [tells.format]
    show _ ↔ d.formats.head? = _
    match d.formats, few with
    | [], _ => simp
    | [g], _ => simp [eq_comm]
  case limit =>
    intro n given
    show d.limit?.getD _ = n
    rw [(tells.limit n).mp given, Option.getD_some]
  case unlimited =>
    intro none
    show d.limit?.getD _ = _
    cases limit : d.limit? with
    | none => rfl
    | some n => exact absurd ((tells.limit n).mpr limit) (none n)
  case exitCode => exact tells.exitCode
  case shell => exact tells.shell
  case complete => exact complete

end Draft

/-- The options that are read are those that the arguments ask for. -/
theorem reads_ofTexts (script : Shell → String) (advice : UsageError → String)
    (clock : Nat → Option String) : (Toolkit.ofTexts script advice clock).Reads := by
  intro arguments o accepted
  have read : parse arguments = .ok (.proceed o) := by
    simp only [Toolkit.ofTexts] at accepted
    split at accepted
    · cases accepted
    · cases accepted
    · cases accepted
    · next proceeds =>
      cases accepted
      exact proceeds
  rw [parse] at read
  split at read
  · next d line =>
    obtain ⟨items, means, adds⟩ := (Draft.passes_of_foldlM line).told.1 rfl
    refine ⟨items, means, (adds Draft.tells_nil).finish ?_⟩
    cases finish : d.finish with
    | error => rw [finish] at read; cases read
    | ok o' =>
      rw [finish] at read
      cases read
      rfl
  · cases read
  · cases read
  · cases read

end Micro86.Command
