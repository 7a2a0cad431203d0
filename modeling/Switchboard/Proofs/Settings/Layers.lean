import Switchboard.CommandLine.Run
import Switchboard.Proofs.Decimal.Digits
import Switchboard.Proofs.Json.Reading
/-!
Where settings come from. A file is a record that gives some of the items or, when anything in it
cannot be read, none of them. A variable that says a value goes before the file, and an item that
nobody gives has its default.
-/

set_option autoImplicit false
set_option relaxedAutoImplicit false

namespace Switchboard.Settings

inductive Item
  | endpoint
  | timeout
  | lenient
  deriving DecidableEq

namespace Item

abbrev Value : Item → Type
  | endpoint => String
  | timeout => UInt64
  | lenient => Bool

def of (settings : Settings) : (item : Item) → item.Value
  | endpoint => settings.endpoint
  | timeout => settings.timeoutSeconds
  | lenient => settings.acceptMissingValue

def default : (item : Item) → item.Value
  | endpoint => "ws://localhost:17080/ws"
  | timeout => (10 : UInt64)
  | lenient => false

def key : Item → String
  | endpoint => "endpoint"
  | timeout => "connect_timeout_secs"
  | lenient => "accept_missing_value"

def place : Item → Nat
  | endpoint => 0
  | timeout => 1
  | lenient => 2

def variableName : Item → String
  | endpoint => "TOPICBUS_ENDPOINT"
  | timeout => "TOPICBUS_CONNECT_TIMEOUT"
  | lenient => "TOPICBUS_ACCEPT_MISSING_VALUE"

/-- What is written in a file is of the type of the item and stands for a value of it. -/
def Reads : (item : Item) → Written → item.Value → Prop
  | endpoint, w, text => w.text? = some text
  | timeout, w, seconds => w.natural? = some seconds.toNat
  | lenient, w, b => w.bool? = some b

/-- The text of a variable says a value: any text is an endpoint, a number of 64 bits in decimal
digits, perhaps behind a plus sign, is a timeout, and six words are truth values. -/
def Says : (item : Item) → String → item.Value → Prop
  | endpoint, text, value => text = value
  | timeout, text, seconds => ∃ digits : List Char,
      (text.toList = digits ∨ text.toList = '+' :: digits) ∧ digits ≠ [] ∧
        (∀ c ∈ digits, c.isDigit) ∧
        Decimal.ofDigits (digits.map Decimal.digitValue) = seconds.toNat
  | lenient, text, b =>
    b = true ∧ (text = "1" ∨ text = "true" ∨ text = "yes") ∨
      b = false ∧ (text = "0" ∨ text = "false" ∨ text = "no")

end Item

abbrev Given := (item : Item) → Option item.Value

/-- The settings with every item that is not given at its default. -/
def ofGiven (given : Given) : Settings where
  endpoint := (given .endpoint).getD (Item.default .endpoint)
  timeoutSeconds := (given .timeout).getD (Item.default .timeout)
  acceptMissingValue := (given .lenient).getD (Item.default .lenient)

section Files

variable {text : String} {given : Given} {item : Item}

/-- The text is a record with these entries for each item: an object whose keys are all texts, with
any other members besides, or an array of no more than three values. -/
inductive IsRecord (text : String) : (Item → List Written) → Prop
  | object (members : List (List Glyph × Written)) (keyed : List (String × Written)) :
    Written.read? text = some (.object members) → Written.keyedMembers members = some keyed →
    IsRecord text fun item => (keyed.filter fun member => member.1 = item.key).map Prod.snd
  | array (items : List Written) :
    Written.read? text = some (.array items) → items.length ≤ 3 →
    IsRecord text fun item => items[item.place]?.toList

/-- The entries for an item give it once, or there are none. -/
inductive Gives (item : Item) : List Written → Option item.Value → Prop
  | nothing : Gives item [] none
  | value (w : Written) (value : item.Value) : item.Reads w value → Gives item [w] (some value)

/-- The text is valid as a whole and gives these items. -/
def Describes (text : String) (given : Given) : Prop :=
  ∃ entries, IsRecord text entries ∧ ∀ item, Gives item (entries item) (given item)

/-- What the file at a path contributes: all that it gives if it is valid as a whole, and nothing if
it is missing, is no text or is not valid. -/
inductive Contributes (storage : Storage) (path : String) : Given → Prop
  | whole (octets : List UInt8) (text : String) (given : Given) :
    storage.read path = .ok octets → Text.decode? octets = some text → Describes text given →
    Contributes storage path given
  | nothing :
    (∀ octets text given, storage.read path = .ok octets → Text.decode? octets = some text →
      ¬Describes text given) →
    Contributes storage path fun _ => none

/-- Where the value of an item comes from. -/
inductive Settles (item : Item) (env : Environment) (given : Given) : item.Value → Prop
  | said (text : String) (value : item.Value) :
    env item.variableName = some text → item.Says text value → Settles item env given value
  | stored (value : item.Value) :
    (∀ text value, env item.variableName = some text → ¬item.Says text value) →
    given item = some value → Settles item env given value
  | default :
    (∀ text value, env item.variableName = some text → ¬item.Says text value) →
    given item = none → Settles item env given item.default

def occurrenceOf : List Written → Written.Occurrence
  | [] => .absent
  | [w] => .once w
  | _ => .repeated

theorem occurrence_eq_occurrenceOf (key : String) (keyed : List (String × Written)) :
    Written.occurrence key keyed =
      occurrenceOf ((keyed.filter fun member => member.1 = key).map Prod.snd) := by
  rw [Written.occurrence_eq]
  generalize keyed.filter (fun member => member.1 = key) = found
  match found with
  | [] => rfl
  | [_] => rfl
  | _ :: _ :: _ => rfl

theorem fieldOr_eq_some_iff (item : Item) {read : Written → Option item.Value}
    (reads : ∀ w value, read w = some value ↔ item.Reads w value) (entries : List Written)
    (value : item.Value) :
    fieldOr item.default read (occurrenceOf entries) = some value ↔
      ∃ found, Gives item entries found ∧ found.getD item.default = value := by
  match entries with
  | [] =>
    constructor
    · intro isDefault
      exact ⟨none, .nothing, Option.some.inj isDefault⟩
    · rintro ⟨found, gives, rfl⟩
      cases gives
      rfl
  | [w] =>
    constructor
    · intro isRead
      exact ⟨some value, .value w value ((reads w value).mp isRead), rfl⟩
    · rintro ⟨found, gives, rfl⟩
      cases gives with
      | value w value isValue => exact (reads w value).mpr isValue
  | _ :: _ :: _ =>
    constructor
    · intro isRead
      cases isRead
    · rintro ⟨found, gives, -⟩
      cases gives

theorem reads_timeout (w : Written) (seconds : UInt64) :
    (w.natural?.map UInt64.ofNat) = some seconds ↔ Item.Reads .timeout w seconds := by
  have fits : ∀ n, w.natural? = some n → n < UInt64.size := by
    intro n isNatural
    unfold Written.natural? at isNatural
    split at isNatural
    · split at isNatural
      · rename_i value found
        obtain ⟨-, greatest⟩ := Json.isHeld_ofNumeral found
        split at isNatural
        · cases isNatural
          have size : UInt64.size = Json.greatestUnsigned + 1 := by decide
          omega
        · cases isNatural
      · cases isNatural
    · cases isNatural
  rw [Option.map_eq_some_iff]
  constructor
  · rintro ⟨n, isNatural, rfl⟩
    have same : (UInt64.ofNat n).toNat = n := UInt64.toNat_ofNat_of_lt' (fits n isNatural)
    exact isNatural.trans (congrArg some same.symm)
  · intro isNatural
    exact ⟨seconds.toNat, isNatural, UInt64.ofNat_toNat⟩

theorem ofOccurrences_eq_some_iff (entries : Item → List Written) {settings : Settings} :
    ofOccurrences (occurrenceOf (entries .endpoint)) (occurrenceOf (entries .timeout))
        (occurrenceOf (entries .lenient)) = some settings ↔
      ∃ given : Given, (∀ item, Gives item (entries item) (given item)) ∧
        settings = ofGiven given := by
  have endpoint := fieldOr_eq_some_iff .endpoint (fun _ _ => Iff.rfl)
    (entries .endpoint)
  have timeout := fieldOr_eq_some_iff .timeout reads_timeout (entries .timeout)
  have lenient := fieldOr_eq_some_iff .lenient (fun _ _ => Iff.rfl) (entries .lenient)
  constructor
  · intro isRead
    obtain ⟨e, isEndpoint, isRead⟩ := Option.bind_eq_some_iff.mp isRead
    obtain ⟨t, isTimeout, isRead⟩ := Option.bind_eq_some_iff.mp isRead
    obtain ⟨l, isLenient, isRead⟩ := Option.bind_eq_some_iff.mp isRead
    cases isRead
    obtain ⟨e, givesEndpoint, rfl⟩ := (endpoint _).mp isEndpoint
    obtain ⟨t, givesTimeout, rfl⟩ := (timeout _).mp isTimeout
    obtain ⟨l, givesLenient, rfl⟩ := (lenient _).mp isLenient
    refine ⟨fun item => match item with
      | .endpoint => e
      | .timeout => t
      | .lenient => l, fun item => ?_, rfl⟩
    cases item with
    | endpoint => exact givesEndpoint
    | timeout => exact givesTimeout
    | lenient => exact givesLenient
  · rintro ⟨given, gives, rfl⟩
    have isEndpoint := (endpoint _).mpr ⟨given .endpoint, gives .endpoint, rfl⟩
    have isTimeout := (timeout _).mpr ⟨given .timeout, gives .timeout, rfl⟩
    have isLenient := (lenient _).mpr ⟨given .lenient, gives .lenient, rfl⟩
    refine Option.bind_eq_some_iff.mpr ⟨_, isEndpoint, ?_⟩
    refine Option.bind_eq_some_iff.mpr ⟨_, isTimeout, ?_⟩
    exact Option.bind_eq_some_iff.mpr ⟨_, isLenient, rfl⟩

theorem ofItems_eq (items : List Written) :
    ofItems items = if items.length ≤ 3 then
      ofOccurrences (occurrenceOf items[0]?.toList) (occurrenceOf items[1]?.toList)
        (occurrenceOf items[2]?.toList) else none := by
  match items with
  | [] => rfl
  | [_] => rfl
  | [_, _] => rfl
  | [_, _, _] => rfl
  | _ :: _ :: _ :: _ :: _ => simp [ofItems]

/-- A text is read as settings exactly if it is valid as a whole; they are what it gives. -/
theorem read?_eq_some_iff {settings : Settings} :
    read? text = some settings ↔ ∃ given, Describes text given ∧ settings = ofGiven given := by
  constructor
  · intro isRead
    unfold read? at isRead
    split at isRead
    · rename_i items isArray
      rw [ofItems_eq] at isRead
      split at isRead
      · rename_i short
        obtain ⟨given, gives, same⟩ := (ofOccurrences_eq_some_iff
          fun item => items[item.place]?.toList).mp isRead
        exact ⟨given, ⟨_, .array items isArray short, gives⟩, same⟩
      · cases isRead
    · rename_i members isObject
      obtain ⟨keyed, isKeyed, isRead⟩ := Option.bind_eq_some_iff.mp isRead
      simp only [occurrence_eq_occurrenceOf] at isRead
      obtain ⟨given, gives, same⟩ := (ofOccurrences_eq_some_iff fun item =>
        (keyed.filter fun member => member.1 = item.key).map Prod.snd).mp isRead
      exact ⟨given, ⟨_, .object members keyed isObject isKeyed, gives⟩, same⟩
    · cases isRead
  · rintro ⟨given, ⟨entries, record, gives⟩, same⟩
    have isRead := (ofOccurrences_eq_some_iff entries).mpr ⟨given, gives, same⟩
    cases record with
    | object members keyed isObject isKeyed =>
      simp only [read?, isObject, isKeyed, Option.bind_eq_bind, Option.bind_some,
        occurrence_eq_occurrenceOf]
      exact isRead
    | array items isArray short =>
      simp only [read?, isArray, ofItems_eq, if_pos short]
      exact isRead

end Files

section Variables

variable {text : String} {settings : Settings} {env : Environment} {given : Given}

theorem seconds?_eq_some_iff (seconds : UInt64) :
    seconds? text = some seconds ↔ Item.Says .timeout text seconds := by
  have size : UInt64.size = Json.greatestUnsigned + 1 := by decide
  have greatest : seconds.toNat ≤ Json.greatestUnsigned := by
    have small := seconds.toNat_lt_size
    omega
  unfold seconds?
  rw [Option.map_eq_some_iff]
  constructor
  · rintro ⟨n, isRead, rfl⟩
    obtain ⟨digits, isText, notEmpty, all, isNumber, fits⟩ :=
      Decimal.readUpTo_eq_some_iff.mp isRead
    have isExact : (UInt64.ofNat n).toNat = n := UInt64.toNat_ofNat_of_lt' (by omega)
    exact ⟨digits, isText, notEmpty, all, isNumber.trans isExact.symm⟩
  · rintro ⟨digits, isText, notEmpty, all, isNumber⟩
    refine ⟨seconds.toNat, Decimal.readUpTo_eq_some_iff.mpr ?_, UInt64.ofNat_toNat⟩
    exact ⟨digits, isText, notEmpty, all, isNumber, greatest⟩

theorem word?_eq_some_iff (b : Bool) : word? text = some b ↔ Item.Says .lenient text b := by
  unfold word? Item.Says
  split
  · rename_i isYes
    cases b with
    | true => simp [isYes]
    | false =>
      rcases isYes with rfl | rfl | rfl <;> simp
  · rename_i notYes
    split
    · rename_i isNo
      cases b with
      | true => simp [notYes]
      | false => simp [isNo]
    · rename_i notNo
      cases b with
      | true => simp [notYes]
      | false => simp [notNo]

/-- Overriding asks the variable of an item first and keeps the item if that says nothing. -/
private theorem settles_getD (item : Item) {read : String → Option item.Value}
    (agrees : ∀ text value, read text = some value ↔ item.Says text value) :
    Settles item env given
      (((env item.variableName).bind read).getD ((given item).getD item.default)) := by
  cases isSaid : (env item.variableName).bind read with
  | some value =>
    obtain ⟨text, isText, isRead⟩ := Option.bind_eq_some_iff.mp isSaid
    exact .said text value isText ((agrees text value).mp isRead)
  | none =>
    have silent : ∀ text value, env item.variableName = some text → ¬item.Says text value := by
      intro text value isText isValue
      have isNone := Option.bind_eq_none_iff.mp isSaid text isText
      rw [(agrees text value).mpr isValue] at isNone
      cases isNone
    cases isGiven : given item with
    | some value => exact .stored value silent isGiven
    | none => exact .default silent isGiven

theorem settles_override (env : Environment) (given : Given) (item : Item) :
    Settles item env given (item.of ((ofGiven given).override env)) := by
  cases item with
  | endpoint =>
    have asked : Settles .endpoint env given (((env _).bind some).getD _) :=
      settles_getD .endpoint fun text value => Option.some_inj
    rwa [Option.bind_fun_some] at asked
  | timeout => exact settles_getD .timeout fun _ => seconds?_eq_some_iff
  | lenient => exact settles_getD .lenient fun _ => word?_eq_some_iff

theorem of_override_congr {env' : Environment} {item : Item}
    (same : env' item.variableName = env item.variableName) :
    item.of (settings.override env') = item.of (settings.override env) := by
  cases item with
  | endpoint => exact congrArg (fun said => said.getD settings.endpoint) same
  | timeout => exact congrArg (fun said => (said.bind seconds?).getD settings.timeoutSeconds) same
  | lenient =>
    exact congrArg (fun said => (said.bind word?).getD settings.acceptMissingValue) same

end Variables

section Loading

variable {storage made : Storage} {path dir : String} {given : Given} {env : Environment}

theorem exists_contributes (storage : Storage) (path : String) :
    ∃ given, Contributes storage path given := by
  by_cases valid : ∃ octets text given, storage.read path = .ok octets ∧
      Text.decode? octets = some text ∧ Describes text given
  · obtain ⟨octets, text, given, isFile, isText, describes⟩ := valid
    exact ⟨given, .whole octets text given isFile isText describes⟩
  · refine ⟨_, .nothing fun octets text given isFile isText describes => ?_⟩
    exact valid ⟨octets, text, given, isFile, isText, describes⟩

/-- A file that cannot be read as a whole is the same as none. -/
theorem loadFrom_of_contributes (contributes : Contributes storage path given) :
    (loadFrom storage path).toOption.getD {} = ofGiven given := by
  cases contributes with
  | whole octets text given isFile isText describes =>
    have isRead := read?_eq_some_iff.mpr ⟨given, describes, rfl⟩
    simp [loadFrom, isFile, isText, isRead, Except.toOption]
  | nothing invalid =>
    unfold loadFrom
    split
    · rfl
    · rename_i text isText
      obtain ⟨octets, isFile, isText⟩ := Option.bind_eq_some_iff.mp isText
      have notRead : read? text = none := by
        cases isRead : read? text with
        | none => rfl
        | some settings =>
          obtain ⟨given, describes, -⟩ := read?_eq_some_iff.mp isRead
          exact absurd describes
            (invalid octets text given (toOption_eq_some_iff.mp isFile) isText)
      rw [notRead]
      rfl

theorem load_eq (isFolder : folder env = .ok dir) (usable : storage.makeFolders dir = .ok made)
    (contributes : Contributes made (Storage.join dir "config.json") given) :
    load env storage = .ok ((ofGiven given).override env, made) := by
  refine bind_eq_ok_iff.mpr ⟨dir, isFolder, ?_⟩
  simp only [usable, loadFrom_of_contributes contributes]

/-- With a folder that can be made the settings are loaded whatever the file holds. Each item comes
from its own variable, else from the file, which contributes all that it gives or nothing, else from
its default. A run of the program works with the same settings, but for the endpoint of an option
and for the leniency. -/
theorem layered_per_item (isFolder : folder env = .ok dir)
    (usable : storage.makeFolders dir = .ok made) :
    (∃ given, Contributes made (Storage.join dir "config.json") given) ∧
      ∀ given, Contributes made (Storage.join dir "config.json") given →
        ∃ loaded, load env storage = .ok (loaded, made) ∧
          (∀ item : Item, Settles item env given (item.of loaded)) ∧
          (∀ env', folder env' = .ok dir → ∃ loaded', load env' storage = .ok (loaded', made) ∧
            ∀ item : Item, env' item.variableName = env item.variableName →
              item.of loaded' = item.of loaded) ∧
          ∀ advice arguments options action start network rules,
            CommandLine.parse arguments = some (.act options action) →
            CommandLine.openLog env start = .ok storage →
            ∃ effective : Settings,
              effective.endpoint = options.endpoint.getD loaded.endpoint ∧
              effective.timeoutSeconds = loaded.timeoutSeconds ∧
              effective.acceptMissingValue = true ∧
              CommandLine.run advice arguments env start network rules =
                match action with
                | .showSettings => { status := 0, output := effective.render ++ "\n" }
                | .run command =>
                  CommandLine.runCommand effective
                    (options.timeout.getD CommandLine.defaultTimeout) command
                    (network (normalizeEndpoint effective.endpoint)) rules := by
  refine ⟨exists_contributes made _, fun given contributes => ?_⟩
  have isLoaded := load_eq isFolder usable contributes
  refine ⟨(ofGiven given).override env, isLoaded, settles_override env given, ?_, ?_⟩
  · intro env' isFolder'
    exact ⟨_, load_eq isFolder' usable contributes, fun item => of_override_congr⟩
  · intro advice arguments options action start network rules asks opened
    refine ⟨CommandLine.effectiveSettings ((ofGiven given).override env) options, rfl, rfl, rfl, ?_⟩
    cases action with
    | run command => simp only [CommandLine.run, opened, asks, isLoaded]
    | showSettings => simp only [CommandLine.run, opened, asks, isLoaded]

theorem layered_per_item_partial_file :
    let env : Environment := fun name =>
      [("TOPICBUS_CONFIG_DIR", "/c"), ("TOPICBUS_CONNECT_TIMEOUT", "+7"),
        ("TOPICBUS_ACCEPT_MISSING_VALUE", "perhaps")].lookup name
    let storage : Storage := ⟨[(["c"], .folder), (["c", "config.json"],
      .file (Text.encode "\x7b\"endpoint\": \"ws://a\", \"connect_timeout_secs\": 3\x7d"))]⟩
    ∃ loaded, load env storage = .ok (loaded, storage) ∧
      loaded = ⟨"ws://a", 7, false⟩ ∧
      ∃ given, Contributes storage "/c/config.json" given ∧
        ∀ item : Item, Settles item env given (item.of loaded) := by
  intro env storage
  have isFolder : folder env = .ok "/c" := rfl
  have usable : storage.makeFolders "/c" = .ok storage := rfl
  have layers := layered_per_item isFolder usable
  obtain ⟨given, contributes⟩ := layers.1
  obtain ⟨loaded, isLoaded, settles, -⟩ := layers.2 given contributes
  have evaluated : (load env storage).toOption.map Prod.fst = some ⟨"ws://a", 7, false⟩ := by
    decide +kernel
  rw [isLoaded] at evaluated
  exact ⟨loaded, isLoaded, Option.some.inj evaluated, given, contributes, settles⟩

end Loading

end Switchboard.Settings
