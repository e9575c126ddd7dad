import LintClient.CommandLine.Arguments
import Mathlib.Data.List.Nodup
import Mathlib.Data.List.TakeDrop

/-!
# Asking for arguments

How to write a command line that is read as it is meant, whatever the files and the values look
like: the options first, in any order and each value joined to its option, then two dashes, then the
files (`parse_requests`). An option that is joined to its value is recognised by what stands in
front of the first equals sign, and behind the two dashes nothing is an option. Different options
are stored in different places, so their order does not count. Only a value of two dashes cannot be
said in this way.
-/

namespace LintClient.CommandLine

/-- The long spelling of an option. -/
def OptionName.spelling : OptionName → String
  | .help => "--help"
  | .config => "--config"
  | .java => "--java"
  | .jar => "--jar"
  | .command => "--command"
  | .timeout => "--timeout"
  | .json => "--json"
  | .listVariables => "--variables"
  | .logLevel => "--log-level"
  | .logDir => "--log-dir"

/-- An option as it is asked for, with its value if it has one. -/
structure Request where
  name : OptionName
  value : Option String
deriving DecidableEq, Repr

namespace Request

/-- The argument that asks for it. -/
def written (request : Request) : String :=
  match request.value with
  | none => request.name.spelling
  | some text => request.name.spelling ++ "=" ++ text

/-- The request for the value of an option, if there is one. -/
def forValue (name : OptionName) (value : Option String) : List Request :=
  value.toList.map fun text => ⟨name, some text⟩

/-- The request for an option without a value, if it is chosen. -/
def forFlag (name : OptionName) (isChosen : Bool) : List Request :=
  if isChosen then [⟨name, none⟩] else []

/-- A request that is understood. Two dashes are no value, and a time limit must spell a number. -/
inductive IsUnderstood : Request → Prop where
  | value {name : OptionName} {text : String} (hasValue : name.hasValue = true) (kept : text ≠ "--")
      (spells : name = .timeout → ∃ seconds, Binary64.ofText? text = some seconds) :
      IsUnderstood ⟨name, some text⟩
  | flag {name : OptionName} (isFlag : name = .json ∨ name = .listVariables) :
      IsUnderstood ⟨name, none⟩

end Request

/-- What a command line is to ask for besides its files: the values of some options, the time limit
as it is spelt, and the options without a value. -/
structure Wishes where
  config : Option String
  java : Option String
  jar : Option String
  command : Option String
  timeout : Option String
  json : Bool
  listsVariables : Bool
  logLevel : Option String
  logDir : Option String
deriving DecidableEq, Repr

open Request (forValue forFlag) in
/-- The requests that say it, each option once. -/
def Wishes.requests (wishes : Wishes) : List Request :=
  forValue .config wishes.config ++ forValue .java wishes.java ++ forValue .jar wishes.jar
    ++ forValue .command wishes.command ++ forValue .timeout wishes.timeout
    ++ forFlag .json wishes.json ++ forFlag .listVariables wishes.listsVariables
    ++ forValue .logLevel wishes.logLevel ++ forValue .logDir wishes.logDir

/-! ## Recognising options -/

/-- An option is found by its spelling. -/
theorem OptionName.lookup_spelling (name : OptionName) :
    OptionName.spellings.lookup name.spelling = some name := by
  cases name <;> decide

/-- No spelling of an option holds an equals sign. -/
theorem OptionName.lookup_of_equals {given : String} (holds : '=' ∈ given.toList) :
    OptionName.spellings.lookup given = none := by
  have without : ∀ entry ∈ OptionName.spellings, '=' ∉ entry.1.toList := by decide
  refine List.lookup_eq_none_iff.mpr fun entry there => ?_
  rw [bne_iff_ne]
  rintro rfl
  exact without entry there holds

/-- No spelling of an option holds an equals sign. -/
theorem OptionName.equals_notMem_spelling (name : OptionName) : '=' ∉ name.spelling.toList := by
  cases name <;> decide

/-- A long option begins with two dashes and goes on. -/
theorem OptionName.exists_spelling (name : OptionName) :
    ∃ c rest, name.spelling.toList = '-' :: '-' :: c :: rest := by
  cases name <;> exact ⟨_, _, rfl⟩

/-- A text is cut at the first equals sign, whatever follows. -/
theorem cutAtEquals_joined {start : String} (without : '=' ∉ start.toList) (value : String) :
    cutAtEquals (start ++ "=" ++ value) = (start, some value) := by
  have before : ∀ c ∈ start.toList, decide (c ≠ '=') = true := fun c there =>
    decide_eq_true fun same => without (same ▸ there)
  have whole : (start ++ "=" ++ value).toList = start.toList ++ '=' :: value.toList := by
    have equals : "=".toList = ['='] := by decide
    simp [String.toList_append, equals]
  have cut : (start.toList ++ '=' :: value.toList).span (· ≠ '=') =
      (start.toList, '=' :: value.toList) := by
    rw [List.span_eq_takeWhile_dropWhile, List.takeWhile_append_of_pos before,
      List.dropWhile_append_of_pos before]
    simp
  simp only [cutAtEquals, whole, cut, String.ofList_toList]

/-- A request is recognised as what it asks for. -/
theorem itemOf_written (request : Request) :
    itemOf request.written = .ok (.option request.name request.value) := by
  obtain ⟨name, value⟩ := request
  obtain ⟨c, rest, spelling⟩ := name.exists_spelling
  cases value with
  | none => simp [itemOf, Request.written, spelling, name.lookup_spelling]
  | some text =>
      have whole : (name.spelling ++ "=" ++ text).toList =
          '-' :: '-' :: c :: rest ++ '=' :: text.toList := by
        have equals : "=".toList = ['='] := by decide
        simp [String.toList_append, equals, spelling]
      have long : name.spelling ≠ "-h" := by cases name <;> decide
      have unknown : OptionName.spellings.lookup (name.spelling ++ "=" ++ text) = none :=
        OptionName.lookup_of_equals (by simp [whole])
      have length : (name.spelling ++ "=" ++ text).length ≠ 1 := by
        rw [← String.length_toList, whole]
        simp
      simp only [itemOf, Request.written, whole, unknown, length, Item.joined, long,
        cutAtEquals_joined name.equals_notMem_spelling, name.lookup_spelling, List.cons_append,
        List.head?_cons, ne_eq, not_true_eq_false, ↓reduceIte]

/-- No option is spelt by two dashes alone. -/
theorem Request.written_ne_dashes (request : Request) : request.written ≠ "--" := by
  obtain ⟨name, value⟩ := request
  obtain ⟨c, rest, spelling⟩ := name.exists_spelling
  have dashes : "--".toList = ['-', '-'] := by decide
  intro same
  have characters := congrArg String.toList same
  cases value <;> simp [written, String.toList_append, spelling, dashes] at characters

/-- Requests are recognised one by one, and behind two dashes everything is a file. -/
theorem itemsOf_requests (requests : List Request) (files : List String) :
    itemsOf (requests.map Request.written ++ "--" :: files) =
      .ok (requests.map (fun request => .option request.name request.value)
        ++ .dashes :: files.map .plain) := by
  induction requests with
  | nil => rfl
  | cons request requests inductionHypothesis =>
      simp only [List.map_cons, List.cons_append]
      rw [itemsOf, itemOf_written, inductionHypothesis]
      · rfl
      · exact request.written_ne_dashes

/-! ## Granting requests -/

/-- Arguments in which what is requested is stored. -/
def Arguments.grant (arguments : Arguments) (request : Request) : Arguments :=
  match request.name with
  | .help => arguments
  | .config => { arguments with config := request.value }
  | .java => { arguments with java := request.value }
  | .jar => { arguments with jar := request.value }
  | .command => { arguments with command := request.value }
  | .timeout => { arguments with timeout := request.value.bind Binary64.ofText? }
  | .json => { arguments with json := true }
  | .listVariables => { arguments with listsVariables := true }
  | .logLevel => { arguments with logLevel := request.value }
  | .logDir => { arguments with logDir := request.value }

namespace Arguments

variable {arguments : Arguments}

/-- What is requested of different options is stored in different places. -/
theorem grant_comm {first second : Request} (different : first.name ≠ second.name) :
    (arguments.grant first).grant second = (arguments.grant second).grant first := by
  obtain ⟨firstName, firstValue⟩ := first
  obtain ⟨secondName, secondValue⟩ := second
  cases firstName <;> cases secondName <;> first | rfl | exact absurd rfl different

/-- No value gets lost. -/
@[simp] theorem lost_grant (request : Request) :
    (arguments.grant request).lost = arguments.lost := by
  unfold grant
  split <;> rfl

/-- Granting requests loses no value. -/
@[simp] theorem lost_foldl_grant (requests : List Request) :
    (requests.foldl grant arguments).lost = arguments.lost := by
  induction requests generalizing arguments with
  | nil => rfl
  | cons request requests inductionHypothesis =>
      rw [List.foldl_cons, inductionHypothesis, lost_grant]

end Arguments

/-- A command line of which only options have been read, none of them without its value. -/
def Progress.onlyOptions (arguments : Arguments) : Progress := ⟨arguments, false, [], []⟩

/-- Where only options were read, the end of a run of files changes nothing. -/
theorem Progress.endRun_onlyOptions (arguments : Arguments) :
    (onlyOptions arguments).endRun = onlyOptions arguments := rfl

/-- A value that is understood is stored. -/
theorem Progress.setJoined_onlyOptions {arguments : Arguments} (noneLost : arguments.lost = [])
    {name : OptionName} {text : String} (understood : Request.IsUnderstood ⟨name, some text⟩) :
    (onlyOptions arguments).setJoined name text =
      .ok (onlyOptions (arguments.grant ⟨name, some text⟩)) := by
  cases understood with
  | value hasValue kept spells =>
      obtain ⟨files, config, java, jar, command, timeout, json, lists, logLevel, logDir, lost⟩ :=
        arguments
      subst noneLost
      rw [setJoined, if_neg (by simp [kept])]
      cases name with
      | timeout =>
          obtain ⟨seconds, spelt⟩ := spells rfl
          simp [setValue, onlyOptions, Arguments.grant, spelt]
      | help => cases hasValue
      | json => cases hasValue
      | listVariables => cases hasValue
      | config => rfl
      | java => rfl
      | jar => rfl
      | command => rfl
      | logLevel => rfl
      | logDir => rfl

/-- One request that is understood is granted, if no file follows at once. -/
theorem readItems_request {arguments : Arguments} (noneLost : arguments.lost = [])
    {request : Request}
    (understood : request.IsUnderstood) {items : List Item}
    (notPlain : ∀ text rest, items ≠ .plain text :: rest) :
    readItems (.onlyOptions arguments) (.option request.name request.value :: items) =
      readItems (.onlyOptions (arguments.grant request)) items := by
  have isUnderstood := understood
  cases understood with
  | value =>
      rw [readItems, Progress.endRun_onlyOptions,
        Progress.setJoined_onlyOptions noneLost isUnderstood]
      rfl
  | flag isFlag =>
      rw [readItems]
      · rcases isFlag with rfl | rfl <;> rfl
      · exact notPlain

/-- Requests that are understood are granted one after the other, up to the two dashes. -/
theorem readItems_requests {requests : List Request}
    (understood : ∀ request ∈ requests, request.IsUnderstood) {arguments : Arguments}
    (noneLost : arguments.lost = []) (items : List Item) :
    readItems (.onlyOptions arguments)
        (requests.map (fun request => .option request.name request.value) ++ .dashes :: items) =
      readItems (.onlyOptions (requests.foldl .grant arguments)) (.dashes :: items) := by
  induction requests generalizing arguments with
  | nil => rfl
  | cons request requests inductionHypothesis =>
      have ⟨first, others⟩ := List.forall_mem_cons.mp understood
      have notPlain :
          ∀ text rest, requests.map (fun request => Item.option request.name request.value)
          ++ .dashes :: items ≠ .plain text :: rest := by
        intro text rest
        cases requests <;> simp
      rw [List.map_cons, List.cons_append, readItems_request noneLost first notPlain,
        inductionHypothesis others (by simp [noneLost]), List.foldl_cons]

/-! ## Files -/

/-- Texts in a row are collected until the command line ends. -/
theorem readItems_plain (progress : Progress) (texts : List String) :
    readItems progress (texts.map .plain) =
      .ok { progress with run := (texts.map Item.plain).reverse ++ progress.run }.endRun := by
  induction texts generalizing progress with
  | nil => rfl
  | cons text texts inductionHypothesis =>
      rw [List.map_cons, readItems, inductionHypothesis]
      · simp
      all_goals exact nofun

/-- Behind the two dashes stand the files, all of them as they are. -/
theorem readItems_files (arguments : Arguments) {files : List String} (nonempty : files ≠ []) :
    readItems (.onlyOptions arguments) (.dashes :: files.map .plain) =
      .ok ⟨{ arguments with files := files }, true, [], []⟩ := by
  have dashesFirst :
      (files.map Item.plain).reverse ++ [.dashes] = (.dashes :: files.map .plain).reverse := by
    simp
  have someFile : ((.dashes :: files.map Item.plain).filter (· ≠ .dashes)).isEmpty = false := by
    cases files <;> simp at nonempty ⊢
  have given : (Item.dashes :: files.map .plain).map Item.given = "--" :: files := by
    simp [Item.given, Function.comp_def]
  rw [readItems]
  · rw [readItems_plain, Progress.onlyOptions, dashesFirst, Progress.endRun]
    simp only [List.reverse_reverse, someFile, given]
    simp
  all_goals exact nofun

/-! ## The command line -/

/-- A value is granted to an option that has none, also if there is no value. -/
theorem foldl_forValue (name : OptionName) {value : Option String} {arguments : Arguments}
    (without : arguments.grant ⟨name, none⟩ = arguments) :
    (Request.forValue name value).foldl Arguments.grant arguments =
    arguments.grant ⟨name, value⟩ := by
  cases value with
  | none => exact without.symm
  | some text => rfl

/-- The request for a flag chooses it, if it is chosen. -/
theorem foldl_forFlag (name : OptionName) (isChosen : Bool) (arguments : Arguments) :
    (Request.forFlag name isChosen).foldl Arguments.grant arguments =
      if isChosen then arguments.grant ⟨name, none⟩ else arguments := by
  cases isChosen <;> rfl

/-- The requests for what is wished for lead to it. -/
theorem Wishes.foldl_grant (wishes : Wishes) :
    wishes.requests.foldl Arguments.grant .none =
      { Arguments.none with
        config := wishes.config
        java := wishes.java
        jar := wishes.jar
        command := wishes.command
        timeout := wishes.timeout.bind Binary64.ofText?
        json := wishes.json
        listsVariables := wishes.listsVariables
        logLevel := wishes.logLevel
        logDir := wishes.logDir } := by
  obtain ⟨config, java, jar, command, timeout, json, lists, logLevel, logDir⟩ := wishes
  simp only [Wishes.requests, List.foldl_append, foldl_forFlag]
  rw [foldl_forValue .config, foldl_forValue .java, foldl_forValue .jar, foldl_forValue .command,
    foldl_forValue .timeout, foldl_forValue .logLevel, foldl_forValue .logDir]
  all_goals cases json <;> cases lists <;> rfl

/-- The requests for what is wished for name each option once. -/
theorem Wishes.nodup_requests (wishes : Wishes) : (wishes.requests.map (·.name)).Nodup := by
  have value (name : OptionName) (value : Option String) :
      ((Request.forValue name value).map (·.name)).Sublist [name] := by
    cases value <;> simp [Request.forValue]
  have flag (name : OptionName) (isChosen : Bool) :
      ((Request.forFlag name isChosen).map (·.name)).Sublist [name] := by
    cases isChosen <;> simp [Request.forFlag]
  have different : [OptionName.config, .java, .jar, .command, .timeout, .json, .listVariables,
    .logLevel, .logDir].Nodup := by decide
  refine different.sublist ?_
  simp only [Wishes.requests, List.map_append]
  exact ((((((((value _ _).append (value _ _)).append (value _ _)).append (value _ _)).append
    (value _ _)).append (flag _ _)).append (flag _ _)).append (value _ _)).append (value _ _)

/-- The requests for what is wished for are understood if no value is two dashes and the time limit
spells a number. -/
theorem Wishes.understood {wishes : Wishes}
    (kept : ∀ request ∈ wishes.requests, request.value ≠ some "--")
    (spells : ∀ text ∈ wishes.timeout, ∃ seconds, Binary64.ofText? text = some seconds) :
    ∀ request ∈ wishes.requests, request.IsUnderstood := by
  have value {name : OptionName} {value : Option String} (hasValue : name.hasValue = true)
      (kept : ∀ request ∈ Request.forValue name value, request.value ≠ some "--")
      (spells : name = .timeout → ∀ text ∈ value, ∃ seconds, Binary64.ofText? text = some seconds) :
      ∀ request ∈ Request.forValue name value, request.IsUnderstood := by
    rintro request there
    obtain ⟨text, isValue, rfl⟩ := List.mem_map.mp there
    exact .value hasValue (fun same => kept _ there (congrArg some same))
      fun isTimeout => spells isTimeout text (Option.mem_toList.mp isValue)
  have flag {name : OptionName} {isChosen : Bool} (isFlag : name = .json ∨ name = .listVariables) :
      ∀ request ∈ Request.forFlag name isChosen, request.IsUnderstood := by
    intro request there
    cases isChosen with
    | false => cases there
    | true =>
        rw [List.mem_singleton.mp there]
        exact .flag isFlag
  simp only [Wishes.requests, List.forall_mem_append] at kept ⊢
  obtain ⟨⟨⟨⟨⟨⟨⟨⟨config, java⟩, jar⟩, command⟩, timeout⟩, -⟩, -⟩, logLevel⟩, logDir⟩ := kept
  exact ⟨⟨⟨⟨⟨⟨⟨⟨value rfl config nofun, value rfl java nofun⟩, value rfl jar nofun⟩,
    value rfl command nofun⟩, value rfl timeout fun _ => spells⟩, flag (.inl rfl)⟩,
    flag (.inr rfl)⟩, value rfl logLevel nofun⟩, value rfl logDir nofun⟩

/-- A command line gives what it was made to ask for: the files in their order and each value as it
was written, whatever they look like, and nothing that was not asked for. -/
theorem parse_requests {wishes : Wishes} {requests : List Request} {files : List String}
    (inAnyOrder : requests.Perm wishes.requests) (nonempty : files ≠ [])
    (kept : ∀ request ∈ wishes.requests, request.value ≠ some "--")
    (spells : ∀ text ∈ wishes.timeout, ∃ seconds, Binary64.ofText? text = some seconds) :
    parse (requests.map Request.written ++ "--" :: files) = .ok
      { files := files
        config := wishes.config
        java := wishes.java
        jar := wishes.jar
        command := wishes.command
        timeout := wishes.timeout.bind Binary64.ofText?
        json := wishes.json
        listsVariables := wishes.listsVariables
        logLevel := wishes.logLevel
        logDir := wishes.logDir
        lost := [] } := by
  have understood : ∀ request ∈ requests, request.IsUnderstood := fun request there =>
    Wishes.understood kept spells request (inAnyOrder.mem_iff.mp there)
  have granted : requests.foldl Arguments.grant .none = wishes.requests.foldl .grant .none := by
    have once : (requests.map (·.name)).Nodup :=
      (inAnyOrder.map (·.name)).nodup_iff.mpr wishes.nodup_requests
    refine inAnyOrder.foldl_eq' (fun first isFirst second isSecond arguments => ?_) _
    by_cases same : first = second
    · rw [same]
    · exact Arguments.grant_comm fun sameName =>
        same (List.inj_on_of_nodup_map once isFirst isSecond sameName)
  have nothingLost : Arguments.none.lost = [] := rfl
  have read := readItems_requests understood nothingLost (files.map .plain)
  rw [readItems_files _ nonempty, granted, wishes.foldl_grant] at read
  have start : Progress.start = .onlyOptions .none := rfl
  simp only [parse, itemsOf_requests, start, bind, Except.bind, read]
  rfl

/-- Wishes for values that look like options, for an empty one and for one that holds an equals
sign. -/
def adversarialWishes : Wishes where
  config := some ""
  java := some "--jar=x"
  jar := none
  command := some "-h"
  timeout := some " -1e3 "
  json := true
  listsVariables := false
  logLevel := some "- -"
  logDir := some "a=b"

/-- Values that look like options are read as what they are meant to be, in whatever order they are
given. -/
theorem parse_requests_adversarial :
    adversarialWishes.requests.reverse.Perm adversarialWishes.requests ∧
    ["--", "-", "--json", "-h", ""] ≠ [] ∧
    (∀ request ∈ adversarialWishes.requests, request.value ≠ some "--") ∧
    (∀ text ∈ adversarialWishes.timeout, ∃ seconds, Binary64.ofText? text = some seconds) ∧
    parse ["--log-dir=a=b", "--log-level=- -", "--json", "--timeout= -1e3 ", "--command=-h",
        "--java=--jar=x", "--config=", "--", "--", "-", "--json", "-h", ""] = .ok
      { files := ["--", "-", "--json", "-h", ""]
        config := some ""
        java := some "--jar=x"
        jar := none
        command := some "-h"
        timeout := Binary64.ofText? " -1e3 "
        json := true
        listsVariables := false
        logLevel := some "- -"
        logDir := some "a=b"
        lost := [] } := by
  have inAnyOrder := List.reverse_perm adversarialWishes.requests
  have nonempty : ["--", "-", "--json", "-h", ""] ≠ [] := List.cons_ne_nil _ _
  have kept : ∀ request ∈ adversarialWishes.requests, request.value ≠ some "--" := by decide
  have spells : ∀ text ∈ adversarialWishes.timeout,
      ∃ seconds, Binary64.ofText? text = some seconds := by
    rintro text ⟨⟩
    exact Option.isSome_iff_exists.mp (by decide +kernel)
  exact ⟨inAnyOrder, nonempty, kept, spells, parse_requests inAnyOrder nonempty kept spells⟩

end LintClient.CommandLine
