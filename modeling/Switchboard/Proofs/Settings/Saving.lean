import Switchboard.Proofs.Json.Spelling
import Switchboard.Proofs.Settings.Layers
import Switchboard.Proofs.Storage
import Switchboard.Proofs.Text.Utf8
/-!
Settings survive their file. The text of the file is an object that is laid out on lines; the
grammar passes over the layout and finds each of the three items once, as it was.
-/

set_option autoImplicit false
set_option relaxedAutoImplicit false

namespace Switchboard.Written

open Json (stringChars)

section Layout

variable {c : Char} {chars others rest text : List Char} {fuel : Nat} {w : Written}
  {members : List (List Glyph × Written)}

private theorem skipSpace_blank (isBlank : isSpace c = true) (text : List Char) :
    skipSpace (c :: text) = skipSpace text := by
  simp [skipSpace, isBlank]

theorem readValue_blank (isBlank : isSpace c = true) (text : List Char) :
    readValue fuel (c :: text) = readValue fuel text := by
  cases fuel with
  | zero => rfl
  | succ fuel => simp only [readValue, skipSpace_blank isBlank]

theorem readMembers_blank (isBlank : isSpace c = true) (text : List Char) :
    readMembers fuel (c :: text) = readMembers fuel text := by
  cases fuel with
  | zero => rfl
  | succ fuel => simp only [readMembers, skipSpace_blank isBlank]

theorem Spells.blank (spells : Spells chars w) (isBlank : isSpace c = true) :
    Spells (c :: chars) w := by
  intro fuel rest enough ends
  rw [List.cons_append, readValue_blank isBlank]
  rw [List.length_cons] at enough
  exact spells fuel rest (by omega) ends

/-- The grammar finds members in some characters, up to and with the brace that closes them. -/
def SpellsMembers (chars : List Char) (members : List (List Glyph × Written)) : Prop :=
  ∀ fuel rest, 2 * chars.length ≤ fuel → readMembers fuel (chars ++ rest) = some (members, rest)

private theorem readMembers_fileLine (spells : Spells chars w) (key : String)
    (enough : 2 * chars.length + 2 ≤ fuel) (ends : EndsNumber rest) :
    readMembers (fuel + 1) ('\n' :: (Settings.fileLine key chars ++ rest)) =
      match skipSpace rest with
      | ',' :: rest => (readMembers fuel rest).map fun read =>
        ((key.toList.map Json.glyphOf, w) :: read.1, read.2)
      | '}' :: rest => some ([(key.toList.map Json.glyphOf, w)], rest)
      | _ => none := by
  have enough' : 2 * (' ' :: chars).length ≤ fuel := by
    rw [List.length_cons]
    omega
  have spaced : Spells (' ' :: chars) w := spells.blank (by decide)
  have read := readMembers_of_spells spaced enough' ends key
  rw [Settings.fileLine, readMembers_blank (by decide), List.cons_append,
    readMembers_blank (by decide), List.cons_append, readMembers_blank (by decide),
    List.append_assoc, List.cons_append]
  exact read

theorem SpellsMembers.last (spells : Spells chars w) (key : String) :
    SpellsMembers ('\n' :: (Settings.fileLine key chars ++ ['\n', '}']))
      [(key.toList.map Json.glyphOf, w)] := by
  intro fuel rest enough
  have long : ('\n' :: (Settings.fileLine key chars ++ ['\n', '}'])).length =
      (stringChars key).length + chars.length + 7 := by
    simp [Settings.fileLine]
    omega
  rw [long] at enough
  obtain ⟨fuel, rfl⟩ : ∃ less, fuel = less + 1 := ⟨fuel - 1, by omega⟩
  have ends : EndsNumber ('\n' :: '}' :: rest) := endsNumber_cons (by decide) (by decide) _
  rw [List.cons_append, List.append_assoc, List.cons_append, List.singleton_append,
    readMembers_fileLine spells key (by omega) ends]
  rfl

theorem SpellsMembers.cons (spells : Spells chars w) (behind : SpellsMembers others members)
    (key : String) :
    SpellsMembers ('\n' :: (Settings.fileLine key chars ++ ',' :: others))
      ((key.toList.map Json.glyphOf, w) :: members) := by
  intro fuel rest enough
  have long : ('\n' :: (Settings.fileLine key chars ++ ',' :: others)).length =
      (stringChars key).length + chars.length + others.length + 6 := by
    simp [Settings.fileLine]
    omega
  rw [long] at enough
  obtain ⟨fuel, rfl⟩ : ∃ less, fuel = less + 1 := ⟨fuel - 1, by omega⟩
  have ends : EndsNumber (',' :: (others ++ rest)) := endsNumber_cons (by decide) (by decide) _
  rw [List.cons_append, List.append_assoc, List.cons_append,
    readMembers_fileLine spells key (by omega) ends, skipSpace_cons (by decide)]
  simp only [behind fuel rest (by omega), Option.map_some]

theorem SpellsMembers.object (key : String) (h : SpellsMembers
    ('\n' :: (Settings.fileLine key chars ++ others)) members) :
    Spells ('{' :: '\n' :: (Settings.fileLine key chars ++ others)) (.object members) := by
  intro fuel rest enough ends
  rw [List.length_cons] at enough
  obtain ⟨fuel, rfl⟩ : ∃ less, fuel = less + 1 := ⟨fuel - 1, by omega⟩
  have read := h fuel rest (by omega)
  -- the reader of an object has passed over the blanks when it goes on to the members
  rw [Settings.fileLine] at read ⊢
  simp only [List.cons_append] at read ⊢
  rw [readMembers_blank (by decide), readMembers_blank (by decide),
    readMembers_blank (by decide)] at read
  have brace : isSpace '{' = false := by decide
  have quote : isSpace '"' = false := by decide
  rw [readValue, skipSpace_cons brace]
  simp only [skipSpace_blank (by decide : isSpace '\n' = true),
    skipSpace_blank (by decide : isSpace ' ' = true), stringChars, List.cons_append,
    skipSpace_cons quote] at read ⊢
  exact congrArg (Option.map fun read => (Written.object read.1, read.2)) read

end Layout

end Switchboard.Written

namespace Switchboard.Settings

variable {settings : Settings} {storage : Storage} {path : String}

def writtenItem (settings : Settings) : Item → Written
  | .endpoint => .string (settings.endpoint.toList.map Json.glyphOf)
  | .timeout => .number (Written.numeralOf settings.timeoutSeconds.toNat)
  | .lenient => .bool settings.acceptMissingValue

theorem reads_writtenItem (settings : Settings) (item : Item) :
    item.Reads (settings.writtenItem item) (item.of settings) := by
  cases item with
  | endpoint =>
    show (Json.textOfGlyphs _).toOption = some settings.endpoint
    rw [Json.textOfGlyphs_glyphOf]
    rfl
  | timeout =>
    have held : (Number.integer settings.timeoutSeconds.toNat).IsHeld := by
      have small := settings.timeoutSeconds.toNat_lt_size
      have size : UInt64.size = Json.greatestUnsigned + 1 := by decide
      exact ⟨by omega, by omega⟩
    show Written.natural? (.number _) = some settings.timeoutSeconds.toNat
    simp only [Written.natural?, Json.ofNumeral_numeralOf held]
    simp
  | lenient => rfl

/-- The file is an object with the three items as its members. -/
theorem read_object_render (settings : Settings) :
    Written.read? settings.render = some (.object
      [(Item.endpoint.key.toList.map Json.glyphOf, settings.writtenItem .endpoint),
        (Item.timeout.key.toList.map Json.glyphOf, settings.writtenItem .timeout),
        (Item.lenient.key.toList.map Json.glyphOf, settings.writtenItem .lenient)]) := by
  have endpoint := Written.spells_string settings.endpoint
  have timeout := Written.spells_integer settings.timeoutSeconds.toNat
  have lenient : Written.Spells (boolChars settings.acceptMissingValue)
      (.bool settings.acceptMissingValue) := by
    cases settings.acceptMissingValue with
    | true => exact Written.spells_true
    | false => exact Written.spells_false
  have last := Written.SpellsMembers.last lenient lenientKey
  have more := Written.SpellsMembers.cons timeout last timeoutKey
  have all := Written.SpellsMembers.cons endpoint more endpointKey
  exact Written.read?_of_spells (all.object endpointKey)

theorem describes_render (settings : Settings) :
    Describes settings.render fun item => some (item.of settings) := by
  have keyed : Written.keyedMembers
      [(Item.endpoint.key.toList.map Json.glyphOf, settings.writtenItem .endpoint),
        (Item.timeout.key.toList.map Json.glyphOf, settings.writtenItem .timeout),
        (Item.lenient.key.toList.map Json.glyphOf, settings.writtenItem .lenient)] =
      some [(Item.endpoint.key, settings.writtenItem .endpoint),
        (Item.timeout.key, settings.writtenItem .timeout),
        (Item.lenient.key, settings.writtenItem .lenient)] := by
    simp only [Written.keyedMembers, Json.textOfGlyphs_glyphOf]
    rfl
  refine ⟨_, .object _ _ (read_object_render settings) keyed, fun item => ?_⟩
  have single : ([(Item.endpoint.key, settings.writtenItem .endpoint),
      (Item.timeout.key, settings.writtenItem .timeout),
      (Item.lenient.key, settings.writtenItem .lenient)].filter
        fun member => member.1 = item.key).map Prod.snd = [settings.writtenItem item] := by
    cases item <;> simp [Item.key]
  rw [single]
  exact .value _ _ (reads_writtenItem settings item)

theorem ofGiven_of (settings : Settings) :
    ofGiven (fun item => some (item.of settings)) = settings := rfl

theorem read?_render (settings : Settings) : read? settings.render = some settings :=
  read?_eq_some_iff.mpr ⟨_, describes_render settings, rfl⟩

theorem override_of_unset {env : Environment}
    (unset : ∀ item : Item, env item.variableName = none) : settings.override env = settings := by
  have endpoint : env "TOPICBUS_ENDPOINT" = none := unset .endpoint
  have timeout : env "TOPICBUS_CONNECT_TIMEOUT" = none := unset .timeout
  have lenient : env "TOPICBUS_ACCEPT_MISSING_VALUE" = none := unset .lenient
  simp [override, endpoint, timeout, lenient]

/-- Settings that are saved where a file can be written are loaded as they were: from the file, and,
where the file is the one in the folder of the settings, with no variable set. -/
theorem reloads_saved (settings : Settings) {kept : Storage}
    (writable : storage.write path [] = .ok kept) :
    ∃ saved, settings.saveTo storage path = .ok saved ∧ loadFrom saved path = .ok settings ∧
      ∀ env dir, folder env = .ok dir → path = Storage.join dir "config.json" →
        (∀ item : Item, env item.variableName = none) →
        load env saved = .ok (settings, saved) := by
  obtain ⟨saved, written⟩ := Storage.exists_write writable (Text.encode settings.render)
  have isFile := Storage.read_write written
  have isText := Text.decode?_encode settings.render
  refine ⟨saved, ?_, ?_, ?_⟩
  · rw [saveTo, written]
  · have found : (saved.read path).toOption.bind Text.decode? = some settings.render := by
      rw [isFile, Except.toOption, Option.bind_some]
      exact isText
    simp only [loadFrom, found, read?_render settings]
  · rintro env dir isFolder rfl unset
    have usable : saved.makeFolders dir = .ok saved :=
      Storage.makeFolders_of_write (by decide +kernel) (by decide +kernel) written
    have contributes : Contributes saved (Storage.join dir "config.json")
        fun item => some (item.of settings) :=
      .whole _ _ _ isFile isText (describes_render settings)
    have isLoaded := load_eq isFolder usable contributes
    rwa [ofGiven_of, override_of_unset unset] at isLoaded

theorem reloads_saved_quoted :
    let settings : Settings := ⟨"ws://\"a\\b\"/\n\u20ac\t", 0xFFFFFFFFFFFFFFFF, true⟩
    let storage : Storage := ⟨[(["c"], .folder)]⟩
    let env : Environment := fun name => [("TOPICBUS_CONFIG_DIR", "/c")].lookup name
    storage.write "/c/config.json" [] = .ok ⟨[(["c", "config.json"], .file []), (["c"], .folder)]⟩ ∧
      ∃ saved, settings.saveTo storage "/c/config.json" = .ok saved ∧
        loadFrom saved "/c/config.json" = .ok settings ∧
        load env saved = .ok (settings, saved) := by
  intro settings storage env
  have writable : storage.write "/c/config.json" [] =
      .ok ⟨[(["c", "config.json"], .file []), (["c"], .folder)]⟩ := rfl
  obtain ⟨saved, isSaved, isLoaded, reloads⟩ := reloads_saved settings writable
  have unset : ∀ item : Item, env item.variableName = none := by
    intro item
    cases item <;> decide
  exact ⟨writable, saved, isSaved, isLoaded, reloads env "/c" rfl (by decide +kernel) unset⟩

end Switchboard.Settings
