import ContractReplay.Proofs.Json.Records
import ContractReplay.Proofs.Json.Yields
import ContractReplay.Proofs.Lists
import ContractReplay.Suite.Text

/-!
# Suites are valid and read again

Reading makes sure of more than the check of the cases does: the values in a case are regular
within the levels that the suite, the list and the case around them leave, and neither the response
nor the error of a case is `null`.  This is what it takes for the text of the suite, in any layout,
to be read as the suite again, if only the numbers in it are whole.
-/

namespace ContractReplay

open Json

/-- That a case has a name and a method, and at most one expectation, which is not `null`. -/
structure Case.Valid (case : Case) : Prop where
  named : Text.isBlank case.name = false
  hasMethod : Text.isBlank case.method = false
  oneExpectation : case.response = none ∨ case.error = none
  response : case.response ≠ some .null
  error : case.error ≠ some .null

/-- That all numbers in a case are whole. -/
structure Case.AllWhole (case : Case) : Prop where
  request : ∀ key value, (key, value) ∈ case.request → value.AllWhole
  response : ∀ value, case.response = some value → value.AllWhole
  error : ∀ value, case.error = some value → value.AllWhole

/-- That the values in a case are as the readers for a number of levels yield them. -/
structure Case.Readable (levels : Nat) (case : Case) : Prop where
  request : Regular levels (.object case.request)
  response : ∀ value, case.response = some value → value ≠ .null ∧ Regular levels value
  error : ∀ value, case.error = some value → value ≠ .null ∧ Regular levels value

variable {case : Case} {suite : Suite} {levels : Nat}

/-! ## What is read -/

theorem Case.readable_blank
    (hasLevel : 0 < levels) :
    (Case.shape levels).blank.Readable levels where
  request := ⟨hasLevel, .object List.nodup_nil nofun⟩
  response := nofun
  error := nofun

/-- The cases that are read are readable. -/
theorem Case.yields_decoder
    (hasLevel : 0 < levels) :
    Yields (Case.decoder levels).reader (Case.Readable levels) := by
  apply Shape.yields_record "TestCase" (Case.readable_blank hasLevel)
  simp only [Case.shape, List.forall_mem_cons]
  refine ⟨.map ?_, .map ?_, .map ?_, .map ?_, .map ?_, by simp⟩
  · exact ⟨fun _ case readable => ⟨readable.request, readable.response, readable.error⟩⟩
  · exact ⟨fun _ case readable => ⟨readable.request, readable.response, readable.error⟩⟩
  · exact
      ⟨fun read case readable =>
        ⟨(yields_membersReader levels).holds read, readable.response, readable.error⟩⟩
  · exact
      ⟨fun read case readable =>
        ⟨readable.request, (yields_optionalReader levels).holds read, readable.error⟩⟩
  · exact
      ⟨fun read case readable =>
        ⟨readable.request, readable.response, (yields_optionalReader levels).holds read⟩⟩

theorem Suite.yields_decoder :
    Yields Suite.decoder.reader fun suite =>
      ∀ case ∈ suite.cases, case.Readable (maxLevels - 3) := by
  apply Shape.yields_record "FixtureDocument" (by simp [Suite.shape])
  simp only [Suite.shape, List.forall_mem_cons]
  refine ⟨.map ⟨fun read suite _ => ?_⟩, by simp⟩
  have yields :
      ∀ item, some (Case.decoder (maxLevels - 3)).reader = some item →
        Yields item (Case.Readable (maxLevels - 3)) := by
    rintro item ⟨⟩
    exact Case.yields_decoder (by decide)
  exact (yields_listReader yields).holds read

/-! ## What is checked -/

theorem Case.defect?_eq_none_iff
    {index : Nat} :
    case.defect? index = none ↔
      Text.isBlank case.name = false ∧ Text.isBlank case.method = false ∧
        (case.response = none ∨ case.error = none) := by
  rw [Case.defect?]
  split_ifs with blankName blankMethod both
  · simp [blankName]
  · simp [blankMethod]
  · rw [Bool.and_eq_true, Option.isSome_iff_ne_none, Option.isSome_iff_ne_none] at both
    simp [both]
  · rw [Bool.and_eq_true, Option.isSome_iff_ne_none, Option.isSome_iff_ne_none] at both
    simp only [Bool.not_eq_true] at blankName blankMethod
    simp only [blankName, blankMethod, true_and, true_iff]
    tauto

theorem Suite.firstDefect?_eq_none_iff
    {index : Nat}
    {cases : List Case} :
    Suite.firstDefect? index cases = none ↔
      ∀ case ∈ cases,
        Text.isBlank case.name = false ∧ Text.isBlank case.method = false ∧
          (case.response = none ∨ case.error = none) := by
  induction cases generalizing index with
  | nil => simp [Suite.firstDefect?]
  | cons first later ih =>
      rw [Suite.firstDefect?, List.forall_mem_cons, ← @ih (index + 1),
        ← @Case.defect?_eq_none_iff first index]
      cases first.defect? index with
      | none => simp
      | some defect => simp

theorem Suite.parse_eq_ok_iff
    {text : String} :
    Suite.parse text = .ok suite ↔
      Suite.decoder.reader.readAll text = .ok suite ∧
        Suite.firstDefect? 0 suite.cases = none := by
  rw [Suite.parse]
  cases Suite.decoder.reader.readAll text with
  | error failure => simp
  | ok found =>
      cases isSound : Suite.firstDefect? 0 found.cases with
      | none =>
          simp only [isSound, Except.ok.injEq, iff_self_and]
          rintro rfl
          exact isSound
      | some defect =>
          simp only [isSound, reduceCtorEq, false_iff, Except.ok.injEq, not_and]
          rintro rfl
          simp [isSound]

/-! ## What is written is read -/

namespace Case

/-- The members of the object that a case is written as. -/
def members (case : Case) : Members :=
  [("test", .string case.name), ("method", .string case.method),
    ("request", .object case.request)] ++
  (case.response.map ("response", ·)).toList ++ (case.error.map ("error", ·)).toList

/-- The changes that these members make of the blank case. -/
def changes (case : Case) : List (Case → Case) :=
  [fun other => { other with name := case.name },
    fun other => { other with method := case.method },
    fun other => { other with request := case.request }] ++
  (case.response.map fun value other => { other with response := some value }).toList ++
  (case.error.map fun value other => { other with error := some value }).toList

theorem foldl_changes
    (case : Case) :
    case.changes.foldl (fun value change => change value) (Case.shape levels).blank = case := by
  rcases case with ⟨name, method, request, response, error⟩
  cases response <;> cases error <;> rfl

theorem nodup_keys_members
    (case : Case) :
    case.members.keys.Nodup := by
  rcases case with ⟨name, method, request, response, error⟩
  cases response <;> cases error <;> simp [members, Members.keys]

theorem members_complete
    (case : Case) :
    ∀ field ∈ (Case.shape levels).fields,
      field.required = true → field.key ∈ case.members.keys := by
  simp [Case.shape, members, Members.keys]

/-- Every member of a case is read as the change that it makes. -/
theorem reads_members
    (layout : Layout)
    (readable : case.Readable levels)
    (whole : case.AllWhole)
    (level : Nat) :
    List.Forall₂ ((Case.shape levels).ReadsMember layout level) case.members case.changes := by
  have name : (Case.shape levels).ReadsMember layout level ("test", .string case.name)
      fun other => { other with name := case.name } :=
    ⟨_, rfl, (layout.reads_string _ case.name level).map _⟩
  have method : (Case.shape levels).ReadsMember layout level ("method", .string case.method)
      fun other => { other with method := case.method } :=
    ⟨_, rfl, (layout.reads_string _ case.method level).map _⟩
  have request : (Case.shape levels).ReadsMember layout level ("request", .object case.request)
      fun other => { other with request := case.request } :=
    ⟨_, rfl, (layout.reads_members whole.request readable.request level).map _⟩
  have response :
      List.Forall₂ ((Case.shape levels).ReadsMember layout level)
        (case.response.map ("response", ·)).toList
        (case.response.map fun value other => { other with response := some value }).toList := by
    apply forall₂_toList_map
    intro value isResponse
    rcases readable.response value isResponse with ⟨notNull, regular⟩
    have allWhole := whole.response value isResponse
    exact ⟨_, rfl, (layout.reads_optional notNull allWhole regular level).map _⟩
  have error :
      List.Forall₂ ((Case.shape levels).ReadsMember layout level)
        (case.error.map ("error", ·)).toList
        (case.error.map fun value other => { other with error := some value }).toList := by
    apply forall₂_toList_map
    intro value isError
    rcases readable.error value isError with ⟨notNull, regular⟩
    have allWhole := whole.error value isError
    exact ⟨_, rfl, (layout.reads_optional notNull allWhole regular level).map _⟩
  have always : List.Forall₂ ((Case.shape levels).ReadsMember layout level) _ _ :=
    .cons name (.cons method (.cons request .nil))
  exact List.rel_append (List.rel_append always response) error

/-- A case is read from its text in a layout. -/
theorem reads
    (layout : Layout)
    (readable : case.Readable levels)
    (whole : case.AllWhole)
    (level : Nat) :
    Reads (Case.decoder levels).reader (layout.text level case.toJson) case := by
  have read :=
    Shape.reads_record "TestCase" (case.reads_members layout readable whole (level + 1))
      case.nodup_keys_members case.members_complete
  rwa [foldl_changes] at read

end Case

namespace Suite

/-- A suite is read from its text in a layout. -/
theorem reads
    (layout : Layout)
    (readable : ∀ case ∈ suite.cases, case.Readable (maxLevels - 3))
    (whole : ∀ case ∈ suite.cases, case.AllWhole) :
    Reads Suite.decoder.reader (layout.text 0 suite.toJson) suite := by
  have casesRead :
      Reads (listReader (some (Case.decoder (maxLevels - 3)).reader))
        (layout.text 1 (.array (suite.cases.map Case.toJson))) suite.cases := by
    apply layout.reads_array
    rw [List.forall₂_map_left_iff, List.forall₂_same]
    intro case member
    exact case.reads layout (readable case member) (whole case member) 2
  have tests :
      (Suite.shape (maxLevels - 3)).ReadsMember layout 1
        ("tests", .array (suite.cases.map Case.toJson)) fun other =>
          { other with cases := suite.cases } :=
    ⟨_, rfl, casesRead.map _⟩
  exact
    Shape.reads_record "FixtureDocument" (.cons tests .nil) (by simp [Members.keys])
      (by simp [Suite.shape, Members.keys])

/-- The text of a suite that was read is read as the suite again, in any layout. -/
theorem parse_text
    (layout : Layout)
    {text : String}
    (parsed : Suite.parse text = .ok suite)
    (whole : ∀ case ∈ suite.cases, case.AllWhole) :
    Suite.parse (String.ofList (layout.text 0 suite.toJson)) = .ok suite := by
  rw [parse_eq_ok_iff] at parsed ⊢
  exact ⟨(reads layout (yields_decoder.readAll parsed.1) whole).readAll, parsed.2⟩

theorem valid_of_parse
    {text : String}
    (parsed : Suite.parse text = .ok suite) :
    ∀ case ∈ suite.cases, case.Valid := by
  rw [parse_eq_ok_iff, firstDefect?_eq_none_iff] at parsed
  intro case member
  have readable := yields_decoder.readAll parsed.1 case member
  rcases parsed.2 case member with ⟨named, hasMethod, oneExpectation⟩
  exact
    { named, hasMethod, oneExpectation
      response := fun isNull => (readable.response .null isNull).1 rfl
      error := fun isNull => (readable.error .null isNull).1 rfl }

/--
Every case of a suite that is read is valid.  If the numbers in the suite are whole, then its own
compact text and its own indented text are read as the very same suite.
-/
theorem parse_valid_and_stable
    {text : String}
    (parsed : Suite.parse text = .ok suite) :
    (∀ case ∈ suite.cases, case.Valid) ∧
      ((∀ case ∈ suite.cases, case.AllWhole) →
        Suite.parse suite.toJson.compact = .ok suite ∧
          Suite.parse suite.toJson.pretty = .ok suite) := by
  refine ⟨valid_of_parse parsed, fun whole => ⟨?_, ?_⟩⟩
  · exact parse_text .compact parsed whole
  · exact parse_text .indented parsed whole

/-- A suite of two cases, of which the second expects an error. -/
def pingAndGet : Suite where
  cases := [
    { name := "ping"
      method := "Ping"
      request := [("n", .number (.whole ⟨3, by decide, by decide⟩))]
      response := none
      error := none },
    { name := "get"
      method := "Get"
      request := []
      response := none
      error := some (.number (.whole ⟨-7, by decide, by decide⟩)) }]

/-- A text of this suite with white space, a case written as an array, an escape and a `null`. -/
def pingAndGetText : String :=
  "\x7b\"tests\": [[\"ping\", \"Ping\", \x7b\"n\": 3\x7d, null],\n" ++
  "\x7b\"method\":\"Get\", \"test\":\"\\u0067et\", \"error\":-7\x7d]\x7d"

theorem parse_pingAndGetText :
    Suite.parse pingAndGetText = .ok pingAndGet := by
  with_unfolding_all rfl

theorem allWhole_pingAndGet :
    ∀ case ∈ pingAndGet.cases, case.AllWhole := by
  simp only [pingAndGet, List.forall_mem_cons]
  refine ⟨⟨?_, nofun, nofun⟩, ⟨nofun, nofun, ?_⟩, nofun⟩
  · intro key value member
    obtain ⟨rfl, rfl⟩ := Prod.mk.inj (List.mem_singleton.mp member)
    exact .number _
  · rintro value ⟨⟩
    exact .number _

theorem parse_valid_and_stable_pingAndGet :
    Suite.parse pingAndGetText = .ok pingAndGet ∧
      (∀ case ∈ pingAndGet.cases, case.AllWhole) ∧
        (∀ case ∈ pingAndGet.cases, case.Valid) ∧
          Suite.parse pingAndGet.toJson.compact = .ok pingAndGet ∧
            Suite.parse pingAndGet.toJson.pretty = .ok pingAndGet := by
  rcases parse_valid_and_stable parse_pingAndGetText with ⟨valid, stable⟩
  exact ⟨parse_pingAndGetText, allWhole_pingAndGet, valid, stable allWhole_pingAndGet⟩

end Suite

end ContractReplay
