import Micro86.Command.Arguments
import Micro86.Command.Toolkit

/-!
# Command lines

`Says` tells what is said on a command line, in any order and spelling, and `Options.SaidBy` which
options that makes. No line says two things, `Says.unique`. `Toolkit.Reads` asks of a toolkit that
the options it gives are said by the arguments.
-/

namespace Micro86.Command

/-- One thing that is said on a command line. -/
inductive Item where
  | verbose
  | format (f : Format)
  | exitCode
  | limit (n : UInt64)
  | shell (s : Shell)
  | input (path : String)
  deriving DecidableEq

namespace Opt

/-- What is said by an option without a value. -/
def item? : Opt → Option Item
  | .verbose => some .verbose
  | .color => some (.format .color)
  | .noColor => some (.format .noColor)
  | .json => some (.format .json)
  | .exitCode => some .exitCode
  | .maxSteps | .completions | .help | .version => none

/-- What is said by an option with a value. -/
def itemOf? (value : String) : Opt → Option Item
  | .maxSteps => (Number.read value.toList).toOption.map .limit
  | .completions => (Shell.ofName? value).map .shell
  | _ => none

end Opt

/-- Whether an argument is taken for what it is and not for an option. -/
def Plain (argument : String) : Prop :=
  argument.toList.head? = some '-' → argument = "-"

/-- What the arguments say, from left to right. -/
inductive Says : List Item → List String → Prop where
  | nil : Says [] []
  | long {o : Opt} {item : Item} {items : List Item} {line : List String}
      (means : o.item? = some item) (rest : Says items line) :
      Says (item :: items) (("--" ++ o.long) :: line)
  /-- Options by their letters, any number of them after one sign. -/
  | short {opts : List Opt} {letters : List Char} {said items : List Item} {line : List String}
      (some : opts ≠ []) (spell : opts.map Opt.short? = letters.map Option.some)
      (means : opts.map Opt.item? = said.map Option.some) (rest : Says items line) :
      Says (said ++ items) (String.ofList ('-' :: letters) :: line)
  | value {o : Opt} {value : String} {item : Item} {items : List Item} {line : List String}
      (means : o.itemOf? value = some item) (rest : Says items line) :
      Says (item :: items) (("--" ++ o.long) :: value :: line)
  | assigned {o : Opt} {value : String} {item : Item} {items : List Item} {line : List String}
      (means : o.itemOf? value = some item) (rest : Says items line) :
      Says (item :: items) (("--" ++ o.long ++ "=" ++ value) :: line)
  | input {path : String} {items : List Item} {line : List String} (plain : Plain path)
      (rest : Says items line) : Says (.input path :: items) (path :: line)
  /-- What follows two signs that stand alone is input, whatever it looks like. -/
  | inputs (paths : List String) : Says (paths.map .input) ("--" :: paths)

/-- Whether these are the options that are asked for. -/
structure Options.SaidBy (items : List Item) (o : Options) : Prop where
  path : ∀ path, .input path ∈ items ↔ o.path? = some path
  verbosity : o.verbosity.toNat = min (items.count .verbose) 255
  format : ∀ f, .format f ∈ items ↔ o.format? = some f
  limit : ∀ n, .limit n ∈ items → o.limit = n
  unlimited : (∀ n, .limit n ∉ items) → o.limit = defaultStepLimit.toUInt64
  exitCode : .exitCode ∈ items ↔ o.exitCode = true
  shell : ∀ s, .shell s ∈ items ↔ o.shell? = some s
  complete : o.shell? = none → ∃ path, o.path? = some path

/-- Whether the options that a toolkit gives are those that the arguments ask for. -/
def Toolkit.Reads (kit : Toolkit) : Prop :=
  ∀ arguments o, kit.parse arguments = .ok o → ∃ items, Says items arguments ∧ o.SaidBy items

theorem Opt.short?_ne_dash (o : Opt) : o.short? ≠ some '-' := by
  cases o <;> simp [Opt.short?]

namespace Argument

/-- How an argument is spelled. -/
inductive Spells : Argument → String → Prop where
  | dashes : Spells .dashes "--"
  | long {name : String} : Spells (.long name none) ("--" ++ name)
  | assigned {name value : String} :
      Spells (.long name (some value)) ("--" ++ name ++ "=" ++ value)
  | short {letters : List Char} (some : letters ≠ []) :
      Spells (.short letters) (String.ofList ('-' :: letters))
  | plain {s : String} (plain : Plain s) : Spells .plain s

/-- A full option is a name and perhaps a value behind the sign `=`. -/
theorem split_eq (cs : List Char) :
    (∃ name, split cs = (name, none) ∧ String.ofList cs = name) ∨
      ∃ name value, split cs = (name, some value) ∧ String.ofList cs = name ++ "=" ++ value := by
  have whole := List.takeWhile_append_dropWhile (p := (· != '=')) (l := cs)
  have first := List.head?_dropWhile_not (· != '=') cs
  cases rest : cs.dropWhile (· != '=') with
  | nil =>
    rw [rest, List.append_nil] at whole
    exact .inl ⟨_, by rw [split, rest], congrArg String.ofList whole.symm⟩
  | cons c value =>
    rw [rest] at first
    obtain rfl : c = '=' := by simpa using first
    refine .inr ⟨_, String.ofList value, by rw [split, rest], ?_⟩
    apply String.toList_inj.mp
    rw [rest] at whole
    simp only [String.toList_append, String.toList_ofList, List.append_assoc]
    exact whole.symm

theorem spells_ofString (s : String) : (ofString s).Spells s := by
  have chars {cs : List Char} (h : s.toList = cs) : s = String.ofList cs := by
    rw [← h, String.ofList_toList]
  rw [ofString]
  split
  · next dashes =>
    rw [chars dashes]
    exact .dashes
  · next cs _ dashes =>
    have long : s = "--" ++ String.ofList cs := by
      rw [chars dashes]
      apply String.toList_inj.mp
      simp
    rw [long]
    rcases split_eq cs with ⟨name, split, whole⟩ | ⟨name, value, split, whole⟩
    · rw [split, whole]
      exact .long
    · rw [split, whole, ← String.append_assoc, ← String.append_assoc]
      exact .assigned
  · next dash =>
    rw [chars dash]
    exact .plain fun _ => rfl
  · next cs _ some dash =>
    rw [chars dash]
    exact .short some
  · next no_dash =>
    refine .plain fun dash => ?_
    cases cs : s.toList with
    | nil => simp [cs] at dash
    | cons c more =>
      rw [cs, List.head?_cons, Option.some.injEq] at dash
      exact absurd (dash ▸ cs) (no_dash more)

theorem ofString_long (o : Opt) : ofString ("--" ++ o.long) = .long o.long none := by
  cases o <;> rfl

theorem ofString_assigned (o : Opt) (value : String) :
    ofString ("--" ++ o.long ++ "=" ++ value) = .long o.long (some value) := by
  have chars : ("--" ++ o.long ++ "=" ++ value).toList =
      '-' :: '-' :: (o.long.toList ++ '=' :: value.toList) := by
    simp
  rw [ofString, chars]
  cases o <;> simp [split, Opt.long]

theorem ofString_short {opts : List Opt} {letters : List Char} (some : opts ≠ [])
    (spell : opts.map Opt.short? = letters.map Option.some) :
    ofString (String.ofList ('-' :: letters)) = .short letters := by
  cases opts with
  | nil => exact absurd rfl some
  | cons o opts =>
    cases letters with
    | nil => cases spell
    | cons c cs =>
      have letter : c ≠ '-' := by
        rintro rfl
        exact o.short?_ne_dash (List.cons.inj spell).1
      simp [ofString, letter]

theorem ofString_plain {s : String} (plain : Plain s) : ofString s = .plain := by
  cases chars : s.toList with
  | nil => simp [ofString, chars]
  | cons c cs =>
    by_cases dash : c = '-'
    · subst dash
      obtain rfl : s = "-" := plain (by rw [chars, List.head?_cons])
      rfl
    · simp [ofString, chars, dash]

end Argument

/-- What a line can say, by what its first argument looks like. -/
inductive Begins : Argument → String → List Item → List String → Prop where
  | long {argument name : String} {o : Opt} {item : Item} {items : List Item} {line : List String}
      (named : o.long = name) (means : o.item? = some item) (rest : Says items line) :
      Begins (.long name none) argument (item :: items) line
  | short {argument : String} {opts : List Opt} {letters : List Char} {said items : List Item}
      {line : List String} (spell : opts.map Opt.short? = letters.map Option.some)
      (means : opts.map Opt.item? = said.map Option.some) (rest : Says items line) :
      Begins (.short letters) argument (said ++ items) line
  | value {argument name : String} {o : Opt} {value : String} {item : Item} {items : List Item}
      {line : List String} (named : o.long = name) (means : o.itemOf? value = some item)
      (rest : Says items line) : Begins (.long name none) argument (item :: items) (value :: line)
  | assigned {argument name : String} {o : Opt} {value : String} {item : Item} {items : List Item}
      {line : List String} (named : o.long = name) (means : o.itemOf? value = some item)
      (rest : Says items line) :
      Begins (.long name (some value)) argument (item :: items) line
  | input {path : String} {items : List Item} {line : List String} (rest : Says items line) :
      Begins .plain path (.input path :: items) line
  | inputs {argument : String} {line : List String} :
      Begins .dashes argument (line.map .input) line

theorem Opt.short?_injective {o p : Opt} {c : Char} (left : o.short? = some c)
    (right : p.short? = some c) : o = p := by
  cases o <;> cases left <;> cases p <;> first | rfl | cases right

theorem Opt.long_injective {o p : Opt} (same : o.long = p.long) : o = p := by
  cases o <;> cases p <;> first | rfl | simp [Opt.long] at same

/-- No option goes with a value and without one. -/
theorem Opt.item?_eq_none {o : Opt} {value : String} {item : Item}
    (means : o.itemOf? value = some item) : o.item? = none := by
  cases o with
  | maxSteps | completions | help | version => rfl
  | verbose | color | noColor | json | exitCode => cases means

variable {items said : List Item} {argument : String} {line : List String}

theorem Says.begins (h : Says items (argument :: line)) :
    Begins (Argument.ofString argument) argument items line := by
  generalize whole : argument :: line = all at h
  cases h with
  | nil => cases whole
  | long means rest =>
    cases whole
    rw [Argument.ofString_long]
    exact .long rfl means rest
  | short some spell means rest =>
    cases whole
    rw [Argument.ofString_short some spell]
    exact .short spell means rest
  | value means rest =>
    cases whole
    rw [Argument.ofString_long]
    exact .value rfl means rest
  | assigned means rest =>
    cases whole
    rw [Argument.ofString_assigned]
    exact .assigned rfl means rest
  | input plain rest =>
    cases whole
    rw [Argument.ofString_plain plain]
    exact .input rest
  | inputs paths =>
    cases whole
    exact .inputs

theorem Opt.eq_of_spell {opts opts' : List Opt} {letters : List Char}
    (spell : opts.map Opt.short? = letters.map Option.some)
    (spell' : opts'.map Opt.short? = letters.map Option.some) : opts = opts' := by
  induction letters generalizing opts opts' with
  | nil => rw [List.map_eq_nil_iff.mp spell, List.map_eq_nil_iff.mp spell']
  | cons c letters ih =>
    cases opts with
    | nil => cases spell
    | cons o opts =>
      cases opts' with
      | nil => cases spell'
      | cons p opts' =>
        obtain ⟨letter, spell⟩ := List.cons.inj spell
        obtain ⟨letter', spell'⟩ := List.cons.inj spell'
        rw [Opt.short?_injective letter letter', ih spell spell']

/-- A line says no more than one thing. -/
theorem Says.unique (h : Says items line) (h' : Says said line) : said = items := by
  induction h generalizing said with
  | nil =>
    cases h'
    rfl
  | @long o item items line means rest ih =>
    have other := h'.begins
    rw [Argument.ofString_long] at other
    generalize "--" ++ o.long = argument at other
    cases other with
    | long named means' rest' =>
      cases Opt.long_injective named
      cases means.symm.trans means'
      rw [ih rest']
    | value named means' =>
      cases Opt.long_injective named
      cases means.symm.trans (Opt.item?_eq_none means')
  | @short opts letters said items line some spell means rest ih =>
    have other := h'.begins
    rw [Argument.ofString_short some spell] at other
    generalize String.ofList ('-' :: letters) = argument at other
    cases other with
    | short spell' means' rest' =>
      cases Opt.eq_of_spell spell spell'
      have same := means'.symm.trans means
      rw [(List.map_inj_right fun _ _ => Option.some.inj).mp same, ih rest']
  | @value o value item items line means rest ih =>
    have other := h'.begins
    rw [Argument.ofString_long] at other
    generalize "--" ++ o.long = argument at other
    cases other with
    | long named means' rest' =>
      cases Opt.long_injective named
      cases means'.symm.trans (Opt.item?_eq_none means)
    | value named means' rest' =>
      cases Opt.long_injective named
      cases means.symm.trans means'
      rw [ih rest']
  | @assigned o value item items line means rest ih =>
    have other := h'.begins
    rw [Argument.ofString_assigned] at other
    generalize "--" ++ o.long ++ "=" ++ value = argument at other
    cases other with
    | assigned named means' rest' =>
      cases Opt.long_injective named
      cases means.symm.trans means'
      rw [ih rest']
  | @input path items line plain rest ih =>
    have other := h'.begins
    rw [Argument.ofString_plain plain] at other
    cases other with
    | input rest' => rw [ih rest']
  | inputs paths =>
    cases h'.begins
    rfl

end Micro86.Command
