import ToolParams.Proofs.ParameterFile.Determining
import ToolParams.Proofs.Schema.Reader

/-!
# Declared defaults and values that are read

The value column of a line is read twice: as the default that the line declares, and as
the value that the file gives the parameter.  The two readings agree but for words that
mean true without being `yes`, and for blank numerals.
-/

namespace ToolParams

namespace Number

theorem isDigit_of_spanSign {first second : Char} {rest : List Char}
    (digit : first.isDigit = true) (all : isDigits (spanSign (first :: second :: rest)).2 = true) :
    second.isDigit = true := by
  rw [spanSign_of_digit digit] at all
  exact (filled_of_isDigits all).2 second (List.mem_cons_of_mem _ List.mem_cons_self)

/-- What is read as a whole number in digits is the same number as any numeral. -/
theorem numeral?_of_integer? {characters : List Char} {number : Number}
    (reads : integer? characters = some number) : numeral? characters = some number := by
  unfold integer? at reads
  rcases parts : spanSign characters with ⟨negative, digits⟩
  simp only [parts] at reads
  split at reads
  case isFalse => cases reads
  case isTrue allDigits =>
    cases reads
    obtain ⟨filled, all⟩ := filled_of_isDigits allDigits
    have signed : signed? characters = some (ofDecimal negative (digitsValue digits) 0) := by
      have notWord : digits ≠ "Infinity".toList := by
        rintro rfl
        exact absurd (all 'I' (by decide)) (by decide)
      simp only [signed?, parts, if_neg notWord]
      exact (Spells.whole filled all).decimal?_eq negative
    unfold numeral?
    split
    · cases parts
      exact absurd rfl filled
    · rename_i letter rest
      have unsigned : isDigits (spanSign ('0' :: letter :: rest)).2 = true := by
        rw [parts]
        exact allDigits
      have digit : letter.isDigit = true := isDigit_of_spanSign (by decide) unsigned
      have plain : isNumeralChar letter = true := by
        rw [isNumeralChar, digit, Bool.true_or]
      rw [base?_of_isNumeralChar plain]
      exact signed
    · exact signed

end Number

namespace ParameterFile

/-- The value that a column gives a parameter where it is not the default that it declares:
a word for true other than `yes`, and a blank numeral. -/
def otherwise? (type : ParameterType) (column : String) : Option Scalar :=
  match type with
  | .boolean =>
      if Text.toLower (Text.trim column) ∈ Coerce.trueWords ∧ column ≠ "yes" then
        some (.bool true)
      else none
  | .integer | .real => if Text.trim column = "" then some (.number (.ofNat 0)) else none
  | _ => none

section Reading

variable {tool name column : String} {declaration : Declaration} {default value : Scalar}

theorem trim_eq_empty_iff : Text.trim column = "" ↔ Text.trimChars column.toList = [] := by
  rw [← String.toList_inj, Text.toList_trim]
  rfl

theorem read_trim (text : String) : Number.read (Text.trim text) = Number.read text := by
  rw [Number.read, Number.read, ← Text.toList_trim, Text.trim_trim, Text.toList_trim]

/-- What a numeric column is read as, if it is read at all. -/
theorem number_eq_of_textToNumber? {integer : Bool}
    (reads : Coerce.textToNumber? integer column = some value)
    (declares : (Schema.readNumber tool name column).map (fun
      | none => Scalar.null
      | some value => .number value) = .ok default) :
    value = if Text.trim column = "" then .number (.ofNat 0) else default := by
  unfold Schema.readNumber at declares
  simp only [Coerce.textToNumber?] at reads
  by_cases blank : Text.trim column = ""
  · rw [if_pos blank]
    rw [trim_eq_empty_iff] at blank
    rw [blank, if_neg (by decide), if_pos rfl] at reads
    exact (Option.some.inj reads).symm
  · rw [if_neg blank]
    have filled : Text.trimChars column.toList ≠ [] := by
      rwa [Ne, ← trim_eq_empty_iff]
    by_cases unset : Text.trim column = "INDEF"
    · have unsetChars : Text.trimChars column.toList = "INDEF".toList := by
        rw [← Text.toList_trim, unset]
      rw [if_pos unsetChars] at reads
      simp only [unset, or_true, if_true] at declares
      cases reads
      cases declares
      rfl
    · have setChars : Text.trimChars column.toList ≠ "INDEF".toList := by
        rwa [← Text.toList_trim, Ne, String.toList_inj]
      rw [if_neg setChars, if_neg filled] at reads
      simp only [blank, unset, or_self, if_false, read_trim] at declares
      have same : value = .number (Number.read column) := by
        cases integer with
        | true =>
            obtain ⟨number, whole, rfl⟩ := Option.map_eq_some_iff.mp reads
            rw [Number.read, Number.numeral?_of_integer? whole, Option.getD_some]
        | false =>
            simp only [Bool.false_eq_true, if_false] at reads
            split at reads
            · exact (Option.some.inj reads).symm
            · cases reads
      split at declares
      · cases declares
      · cases declares
        exact same

/-- What a column of a boolean parameter is read as, if it is read at all. -/
theorem bool_eq_of_toBoolean? {truth : Bool}
    (reads : Coerce.toBoolean? (.ofText column) = some truth) :
    truth = (decide (column = "yes") ||
      decide (Text.toLower (Text.trim column) ∈ Coerce.trueWords)) := by
  simp only [Coerce.toBoolean?, Input.ofText] at reads
  by_cases isTrue : Text.toLower (Text.trim column) ∈ Coerce.trueWords
  · rw [if_pos isTrue] at reads
    cases reads
    rw [decide_eq_true isTrue, Bool.or_true]
  · have other : column ≠ "yes" := by
      rintro rfl
      exact isTrue (by decide)
    rw [if_neg isTrue] at reads
    split at reads
    · cases reads
      rw [decide_eq_false isTrue, decide_eq_false other, Bool.or_false]
    · cases reads

theorem toText_column (column : String) :
    Coerce.toText (if column = "" then .scalar .null else .ofText column) =
      if column = "" then .null else .text column := by
  by_cases unset : column = ""
  · rw [if_pos unset, if_pos unset]
    rfl
  · rw [if_neg unset, if_neg unset]
    exact if_neg unset

/-- A column is read as the default that it declares, with two exceptions. -/
theorem coerce_plainInput {holder : String} (lettered : ∀ word, declaration.type ≠ .untyped word)
    (plain : Redirect.isWritten column = false)
    (declares : Schema.readDefault tool name declaration.type column = .ok default)
    (reads : coerce holder declaration (plainInput declaration column) = .ok value) :
    value = (otherwise? declaration.type column).getD default := by
  unfold Schema.readDefault at declares
  rw [plain] at declares
  have numeric (isNumeric : declaration.type.isNumeric = true)
      (declares : (Schema.readNumber tool name column).map (fun
        | none => Scalar.null
        | some value => .number value) = .ok default) :
      value = (if Text.trim column = "" then some (Scalar.number (.ofNat 0)) else none).getD
        default := by
    rw [plainInput_of_other (isText_of_numeric isNumeric)] at reads
    rw [number_eq_of_textToNumber? (toNumber?_of_coerce isNumeric reads) declares]
    split <;> rfl
  cases typed : declaration.type with
  | boolean =>
      unfold coerce plainInput at reads
      simp only [typed, ParameterType.isText, Bool.false_and, Bool.false_eq_true, if_false]
        at declares reads
      cases truth : Coerce.toBoolean? (.ofText column) with
      | none =>
          rw [truth] at reads
          cases reads
      | some value =>
          rw [truth] at reads
          cases reads
          cases declares
          rw [bool_eq_of_toBoolean? truth, otherwise?]
          by_cases exact : column = "yes"
          · simp [exact]
          · by_cases isTrue : Text.toLower (Text.trim column) ∈ Coerce.trueWords
            · simp [exact, isTrue]
            · simp [exact, isTrue]
  | integer =>
      simp only [typed] at declares
      exact numeric (by rw [typed]; rfl) declares
  | real =>
      simp only [typed] at declares
      exact numeric (by rw [typed]; rfl) declares
  | string =>
      unfold coerce plainInput at reads
      simp only [typed, ParameterType.isText, Bool.true_and, decide_eq_true_eq, toText_column]
        at declares reads
      cases reads
      cases declares
      rfl
  | filename =>
      unfold coerce plainInput at reads
      simp only [typed, ParameterType.isText, Bool.true_and, decide_eq_true_eq, toText_column]
        at declares reads
      cases reads
      cases declares
      rfl
  | untyped word => exact absurd typed (lettered word)

theorem otherwise?_ne (plain : Redirect.isWritten column = false)
    (declares : Schema.readDefault tool name declaration.type column = .ok default)
    (reads : otherwise? declaration.type column = some value) : value ≠ default := by
  unfold Schema.readDefault at declares
  rw [plain] at declares
  unfold otherwise? at reads
  have numeric
      (reads : (if Text.trim column = "" then some (Scalar.number (.ofNat 0)) else none) =
        some value)
      (declares : (Schema.readNumber tool name column).map (fun
        | none => Scalar.null
        | some value => .number value) = .ok default) : value ≠ default := by
    split at reads
    · rename_i blank
      simp only [Schema.readNumber, blank, true_or, if_true] at declares
      cases reads
      cases declares
      exact Scalar.noConfusion
    · cases reads
  cases typed : declaration.type with
  | boolean =>
      simp only [typed, Bool.false_eq_true, if_false] at declares reads
      split at reads
      · rename_i isTrue
        cases reads
        cases declares
        simp [isTrue.2]
      · cases reads
  | integer =>
      simp only [typed] at declares reads
      exact numeric reads declares
  | real =>
      simp only [typed] at declares reads
      exact numeric reads declares
  | string =>
      rw [typed] at reads
      cases reads
  | filename =>
      rw [typed] at reads
      cases reads
  | untyped word =>
      rw [typed] at reads
      cases reads

end Reading

section Contents

def lineName (line : String) : String :=
  match Columns.split line with
  | .ok columns => columns.getD 0 ""
  | .error _ => ""

variable {contents final : Contents} {lines : List String} {name line : String}
  {columns : List String}

theorem lineName_of_split (cut : Columns.split line = .ok columns) :
    lineName line = columns.getD 0 "" := by
  rw [lineName, cut]

theorem get?_addColumns (other : columns.getD 0 "" ≠ name) :
    (addColumns contents columns).get? name = contents.get? name := by
  unfold addColumns
  dsimp only
  split
  · rfl
  · rw [OrderedMap.get?_insert, if_neg other]

theorem get?_addLines_of_not_mem (added : addLines contents lines = .ok final)
    (outside : name ∉ lines.map lineName) : final.get? name = contents.get? name := by
  induction lines generalizing contents with
  | nil =>
      cases added
      rfl
  | cons line rest induction =>
      obtain ⟨columns, cut, added⟩ := Outcome.bind_eq_ok_iff.mp added
      rw [List.map_cons, List.mem_cons, not_or, lineName_of_split cut] at outside
      rw [induction added outside.2, get?_addColumns (Ne.symm outside.1)]

/-- A line gives its name the text in its value column, if no other line has the name. -/
theorem get?_addLines_of_mem (added : addLines contents lines = .ok final)
    (apart : (lines.map lineName).Nodup) (member : line ∈ lines)
    (cut : Columns.split line = .ok columns) (named : columns.getD 0 "" ≠ "") :
    final.get? (columns.getD 0 "") = some (columns.getD 3 "") := by
  induction lines generalizing contents with
  | nil => cases member
  | cons head rest induction =>
      obtain ⟨others, cutHead, added⟩ := Outcome.bind_eq_ok_iff.mp added
      obtain ⟨outside, apart⟩ := List.nodup_cons.mp apart
      rcases List.mem_cons.mp member with rfl | later
      · cases cut.symm.trans cutHead
        rw [lineName_of_split cut] at outside
        rw [get?_addLines_of_not_mem added outside, addColumns]
        simp only [if_neg named, OrderedMap.get?_insert, if_true]
      · exact induction added apart later

end Contents

section Defaults

variable {tool text path : String} {kind : ToolKind} {schema : Schema} {declaration : Declaration}
  {world noted : World} {final : Store}

def IsValueColumn (text name column : String) : Prop :=
  ∃ line ∈ Schema.contentLines text, ∃ columns, Columns.split line = .ok columns ∧
    columns.getD 0 "" = name ∧ columns.getD 3 "" = column

/-- A file that declares parameters, read into a fresh store of them, gives a parameter
without a constraint the default that it declares, with two exceptions. -/
theorem entry_of_restore_declared (accepted : Schema.read tool text kind = .ok schema)
    (named : "" ∉ (Schema.contentLines text).map lineName)
    (apart : ((Schema.contentLines text).map lineName).Nodup)
    (declared : declaration ∈ schema.declarations)
    (lettered : ∀ word, declaration.type ≠ .untyped word)
    (settled : Redirect.ofInput? (.scalar declaration.default) = none)
    (unconstrained : declaration.constraint = none)
    (found : world.files.read path = .ok text)
    (reads : (restore path).perform world (Store.fresh schema) = (.ok (), noted, final)) :
    ∃ column, IsValueColumn text declaration.name column ∧
      final.entry declaration.name =
        .literal ((otherwise? declaration.type column).getD declaration.default) ∧
      (final.entry declaration.name = .literal declaration.default ↔
        otherwise? declaration.type column = none) := by
  obtain ⟨_, _, distinct, _⟩ := Schema.parts_of_read accepted
  obtain ⟨line, counted, columns, cut, declares⟩ :=
    Schema.exists_declaring_line accepted declared
  have filled : columns.getD 0 "" ≠ "" := by
    intro unnamed
    exact named (List.mem_map.mpr ⟨line, counted, (lineName_of_split cut).trans unnamed⟩)
  have plain : Redirect.isWritten (columns.getD 3 "") = false := by
    cases written : Redirect.isWritten (columns.getD 3 "") with
    | false => rfl
    | true =>
        have kept := declares.default
        unfold Schema.readDefault at kept
        rw [if_pos written] at kept
        rw [← Except.ok.inj kept] at settled
        simp only [Redirect.ofInput?, written, if_true] at settled
        cases settled
  obtain ⟨contents, loaded, folded⟩ := Outcome.bind_eq_ok_iff.mp (readFrom_of_read reads)
  have added : addLines .empty (Schema.contentLines text) = .ok contents := by
    rw [loadFrom, found] at loaded
    exact Outcome.mapError_eq_ok_iff.mp loaded
  have given : contents.get? declaration.name = some (columns.getD 3 "") := by
    rw [declares.name]
    exact get?_addLines_of_mem added apart counted cut filled
  have distinctNames : ((Store.fresh schema).declarations.map Declaration.name).Nodup := distinct
  obtain ⟨midway, input, _, taken, checked⟩ := exists_check_of_assignFrom distinctNames
    (fun _ member => member) distinctNames declared given folded
  rw [inputFrom_empty] at taken
  cases taken
  have literal : final.entry declaration.name =
      .literal ((otherwise? declaration.type (columns.getD 3 "")).getD declaration.default) := by
    unfold Store.check at checked
    rw [ofInput?_plainInput, plain] at checked
    obtain ⟨value, coerced, checked⟩ := Outcome.bind_eq_ok_iff.mp checked
    obtain ⟨kept, within, checked⟩ := Outcome.bind_eq_ok_iff.mp checked
    rw [Constraint.check.eq_def, unconstrained] at within
    cases within
    rw [← Outcome.pure_eq_ok_iff.mp checked,
      coerce_plainInput lettered plain declares.default coerced]
  refine ⟨columns.getD 3 "", ⟨line, counted, columns, cut, declares.name.symm, rfl⟩, literal, ?_⟩
  rw [literal]
  constructor
  · intro same
    cases read : otherwise? declaration.type (columns.getD 3 "") with
    | none => rfl
    | some value =>
        rw [read] at same
        exact absurd (Stored.literal.inj same) (otherwise?_ne plain declares.default read)
  · intro none
    rw [none]
    rfl

/-- A file that declares a lamp. -/
def lampText : String := "lit,b,h,true,,,\nbulbs,i,h,,,,\nshade,s,h,\"white\",,,\n"

/-- The lamp that it declares. -/
def lamp : Schema where
  name := "lamp"
  kind := .parameterFile
  executable := none
  required := []
  optional := [
    { name := "lit", type := .boolean, help := "", default := .bool false, required := false,
      mode := "h", constraint := none },
    { name := "bulbs", type := .integer, help := "", default := .null, required := false,
      mode := "h", constraint := none },
    { name := "shade", type := .string, help := "", default := .text "white", required := false,
      mode := "h", constraint := none }]

def lampWorld : World :=
  { World.empty with
    files := FileTree.empty.place ["lamp.par"] (.file lampText FileTree.fileMode) }

theorem entry_of_restore_declared_lamp :
    ∃ noted final,
      (restore "lamp.par").perform lampWorld (Store.fresh lamp) = (.ok (), noted, final) ∧
        final.entry "shade" = .literal (.text "white") := by
  have reads : (restore "lamp.par").perform lampWorld (Store.fresh lamp) = (.ok (), _) :=
    Action.perform_eq (by decide +kernel)
  have accepted : Schema.read "lamp" lampText .parameterFile = .ok lamp := by decide +kernel
  have found : lampWorld.files.read "lamp.par" = .ok lampText := by decide +kernel
  generalize ((restore "lamp.par").perform lampWorld (Store.fresh lamp)).2 = left at reads
  obtain ⟨noted, final⟩ := left
  have declared : lamp.optional[2] ∈ lamp.declarations := by decide +kernel
  obtain ⟨_, _, literal, _⟩ := entry_of_restore_declared accepted (by decide +kernel)
    (by decide +kernel) declared (fun _ => ParameterType.noConfusion) (by decide) rfl found reads
  exact ⟨noted, final, reads, literal⟩

/-- A word for true other than `yes` declares false and is read as true, and a blank numeral
declares no value and is read as zero. -/
theorem lamp_not_as_declared :
    Schema.read "lamp" lampText .parameterFile = .ok lamp ∧
      lampWorld.files.read "lamp.par" = .ok lampText ∧
      ((restore "lamp.par").perform lampWorld (Store.fresh lamp)).1 = .ok () ∧
      (Store.fresh lamp).entries =
        [("lit", .bool false), ("bulbs", .null), ("shade", .text "white")] ∧
      ((restore "lamp.par").perform lampWorld (Store.fresh lamp)).2.2.entries =
        [("lit", .bool true), ("bulbs", .number (.ofNat 0)), ("shade", .text "white")] := by
  decide +kernel

end Defaults

end ParameterFile

end ToolParams
