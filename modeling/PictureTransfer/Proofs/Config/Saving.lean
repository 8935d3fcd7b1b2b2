import PictureTransfer.Config.File
import PictureTransfer.Proofs.Guid.Respelling
import PictureTransfer.Proofs.Toml.Figures
import PictureTransfer.Proofs.Toml.Quoting

/-!
# Configurations that are saved and loaded

A settings file is written line by line, and what is read of it are the lines: each line adds the
entry of its key, whatever was read before and whatever stands on the lines behind it.  So a file
of settings with different keys is read as these settings, in their order.  The lines of a
configuration are such a file.

* `Document.lines_line`, `Document.read_settings` — a line, and a file of lines;
* `Document.value_write` — texts are values that are read back (`Document.value_figures` says so
  of numbers);
* `ofText?_render` — what describes a configuration is read as that configuration;
* `load_save` — a configuration whose numbers have room is what its file holds, and no other has
  a file.
-/

namespace PictureTransfer

namespace Toml.Document

open Config (line)

/-! ## One line -/

theorem skipBlanks_cons {c : Char} (h : isBlank c = false) (text : List Char) :
    skipBlanks (c :: text) = c :: text :=
  List.dropWhile_cons_of_neg (by simp [h])

/-- A character of a key is none of the characters that are none. -/
theorem ne_of_isKeyChar {c d : Char} (h : isKeyChar c = true) (hd : isKeyChar d = false) :
    c ≠ d := by
  rintro rfl
  exact Bool.noConfusion (h.symm.trans hd)

theorem isBlank_of_isKeyChar {c : Char} (h : isKeyChar c = true) : isBlank c = false := by
  have hspace : c ≠ ' ' := ne_of_isKeyChar h (by decide)
  have htab : c ≠ '\t' := ne_of_isKeyChar h (by decide)
  simp [isBlank, hspace, htab]

/-- A key that needs no marks. -/
def IsBare (key : String) : Prop := key.toList ≠ [] ∧ key.toList.all isKeyChar = true

instance (key : String) : Decidable (IsBare key) := inferInstanceAs (Decidable (_ ∧ _))

variable {key : String} {text rest : List Char} {found : Value}

theorem IsBare.chars (h : IsBare key) : ∀ c ∈ key.toList, isKeyChar c = true :=
  List.all_eq_true.mp h.2

/-- A bare key begins with a character of a key. -/
theorem IsBare.cons (h : IsBare key) : ∃ c tail, key.toList = c :: tail ∧ isKeyChar c = true := by
  have hchars := h.chars
  cases hkey : key.toList with
  | nil => exact absurd hkey h.1
  | cons c tail => exact ⟨c, tail, rfl, hchars c (hkey ▸ List.mem_cons_self)⟩

/-- **A bare key is read** up to the blank behind it. -/
theorem keyPart_bare (h : IsBare key) (rest : List Char) :
    keyPart (key.toList ++ ' ' :: rest) = some (key, ' ' :: rest) := by
  have htake : (key.toList ++ ' ' :: rest).takeWhile isKeyChar = key.toList := by
    rw [List.takeWhile_append_of_pos h.chars, List.takeWhile_cons_of_neg (by decide),
      List.append_nil]
  have hdrop : (key.toList ++ ' ' :: rest).dropWhile isKeyChar = ' ' :: rest := by
    rw [List.dropWhile_append_of_pos h.chars, List.dropWhile_cons_of_neg (by decide)]
  have hempty : key.toList.isEmpty = false := by simpa using h.1
  unfold keyPart
  split
  case h_3 => simp only [htake, hdrop, hempty, Bool.false_eq_true, if_false, String.ofList_toList]
  all_goals
    rename_i heq
    obtain ⟨c, tail, hkey, hchar⟩ := h.cons
    rw [hkey, List.cons_append] at heq
    obtain ⟨rfl, -⟩ := List.cons.inj heq
    exact absurd hchar (by decide)

/-- **It is the whole key** where an equals sign stands behind it. -/
theorem keyParts_bare (h : IsBare key) (room : Nat) (rest : List Char) :
    keyParts (room + 1) (key.toList ++ ' ' :: '=' :: rest) = some ([key], '=' :: rest) := by
  obtain ⟨c, tail, hkey, hchar⟩ := h.cons
  have hskip : skipBlanks (key.toList ++ ' ' :: '=' :: rest) =
      key.toList ++ ' ' :: '=' :: rest := by
    rw [hkey]
    exact skipBlanks_cons (isBlank_of_isKeyChar hchar) _
  have hsign : skipBlanks (' ' :: '=' :: rest) = '=' :: rest := rfl
  simp [keyParts, hskip, keyPart_bare h, hsign]

theorem key_bare (h : IsBare key) (rest : List Char) :
    Document.key (key.toList ++ ' ' :: '=' :: rest) = some (([], key), '=' :: rest) := by
  have hparts := keyParts_bare h (depthLimit - 2) rest
  have hroom : depthLimit - 1 = depthLimit - 2 + 1 := rfl
  rw [Document.key, hroom, hparts]
  rfl

/-- What is written for a value on a line: something that does not begin with a blank, and is read
as the value. -/
structure Stands (text : List Char) (found : Value) : Prop where
  head : ∀ c ∈ text.head?, isBlank c = false
  nonempty : text ≠ []
  read : ∀ rest, value (depthLimit - 1) (text ++ '\n' :: rest) = some (found, '\n' :: rest)

theorem line_append (key : String) (text rest : List Char) :
    line key text ++ rest = key.toList ++ ' ' :: '=' :: ' ' :: (text ++ '\n' :: rest) := by
  simp [line]

theorem setting_line (hkey : IsBare key) (hfound : Stands text found) (rest : List Char) :
    setting (value (depthLimit - 1)) (line key text ++ rest) =
      some ((([], key), found), '\n' :: rest) := by
  have hskip : skipBlanks (' ' :: (text ++ '\n' :: rest)) = text ++ '\n' :: rest := by
    cases text with
    | nil => exact absurd rfl hfound.nonempty
    | cons c text => exact skipBlanks_cons (hfound.head c rfl) _
  rw [line_append]
  simp [setting, key_bare hkey, hskip, hfound.read]

/-- A setting outside of any table is put behind those before it. -/
theorem put_new {entries : Entries} (h : ∀ entry ∈ entries, entry.1 ≠ key) (found : Value) :
    Progress.put ⟨entries, []⟩ [] key found = some ⟨entries ++ [(key, found)], []⟩ := by
  simp [Progress.put, Entries.descend, Entries.insert_nil, Entries.add_eq_append h]

/-- **A line adds its entry**, and the lines behind it are read as if it were not there. -/
theorem lines_line (hkey : IsBare key) (hfound : Stands text found) {entries : Entries}
    (hnew : ∀ entry ∈ entries, entry.1 ≠ key) (room : Nat) (rest : List Char) :
    lines (room + 1) ⟨entries, []⟩ (line key text ++ rest) =
      lines room ⟨entries ++ [(key, found)], []⟩ rest := by
  have hsetting := setting_line hkey hfound rest
  have hput := put_new hnew found
  have hend : endLine ('\n' :: rest) = some rest := rfl
  obtain ⟨c, tail, hcons, hchar⟩ := hkey.cons
  rw [line_append, hcons, List.cons_append] at hsetting ⊢
  have hskip := skipBlanks_cons (isBlank_of_isKeyChar hchar)
    (tail ++ ' ' :: '=' :: ' ' :: (text ++ '\n' :: rest))
  have hremark : c ≠ '#' := ne_of_isKeyChar hchar (by decide)
  have hline : c ≠ '\n' := ne_of_isKeyChar hchar (by decide)
  have hreturn : c ≠ '\r' := ne_of_isKeyChar hchar (by decide)
  have hheader : c ≠ '[' := ne_of_isKeyChar hchar (by decide)
  simp [lines, hskip, hremark, hline, hreturn, statement, hheader, hsetting, hput, hend]

/-! ## Files of lines -/

/-- A setting: its key, what is written for its value, and the value. -/
structure Written where
  key : String
  text : List Char
  found : Value

/-- The line of a setting. -/
def Written.line (w : Written) : List Char := Config.line w.key w.text

/-- The entry that its line adds. -/
def Written.entry (w : Written) : String × Value := (w.key, w.found)

/-- A setting that is read as it is meant. -/
structure Written.Sound (w : Written) : Prop where
  bare : IsBare w.key
  stands : Stands w.text w.found

/-- Lines are read one by one. -/
theorem lines_settings {settings : List Written} (hsound : ∀ w ∈ settings, w.Sound)
    (hkeys : (settings.map Written.key).Nodup) {entries : Entries}
    (hnew : ∀ w ∈ settings, ∀ entry ∈ entries, entry.1 ≠ w.key) {room : Nat}
    (hroom : settings.length < room) :
    lines room ⟨entries, []⟩ (settings.flatMap Written.line) =
      some ⟨entries ++ settings.map Written.entry, []⟩ := by
  induction settings generalizing entries room with
  | nil =>
      cases room with
      | zero => exact absurd hroom (Nat.not_lt_zero _)
      | succ room => simp [lines, skipBlanks]
  | cons w more ih =>
      cases room with
      | zero => exact absurd hroom (Nat.not_lt_zero _)
      | succ room =>
          have hw := hsound w List.mem_cons_self
          obtain ⟨hown, hkeys⟩ := List.nodup_cons.mp hkeys
          have hfresh : ∀ v ∈ more, ∀ entry ∈ entries ++ [w.entry], entry.1 ≠ v.key := by
            intro v hv entry hentry
            rcases List.mem_append.mp hentry with hbefore | hlast
            · exact hnew v (List.mem_cons_of_mem w hv) entry hbefore
            · rintro hsame
              obtain rfl := List.mem_singleton.mp hlast
              exact hown (List.mem_map.mpr ⟨v, hv, hsame.symm⟩)
          have hmore := ih (fun v hv => hsound v (List.mem_cons_of_mem w hv)) hkeys hfresh
            (Nat.lt_of_succ_lt_succ hroom)
          rw [List.flatMap_cons, Written.line,
            lines_line hw.bare hw.stands (hnew w List.mem_cons_self)]
          rw [List.append_assoc] at hmore
          exact hmore

theorem length_le_flatMap_line (settings : List Written) :
    settings.length ≤ (settings.flatMap Written.line).length := by
  induction settings with
  | nil => exact Nat.le_refl 0
  | cons w more ih =>
      simp only [List.length_cons, List.flatMap_cons, List.length_append, Written.line,
        Config.line, List.length_nil]
      omega

/-- A file of settings does not begin with the mark of its encoding. -/
theorem withoutMark_settings {settings : List Written} (hsound : ∀ w ∈ settings, w.Sound) :
    withoutMark (settings.flatMap Written.line) = settings.flatMap Written.line := by
  cases settings with
  | nil => rfl
  | cons w more =>
      obtain ⟨c, tail, hcons, hchar⟩ := (hsound w List.mem_cons_self).bare.cons
      have hmark : c ≠ '\ufeff' := ne_of_isKeyChar hchar (by decide)
      rw [List.flatMap_cons, Written.line, line_append, hcons, List.cons_append, withoutMark]
      rintro _ heq
      exact hmark (List.cons.inj heq).1

/-- **A file of settings with different keys is read as these settings.** -/
theorem read_settings {settings : List Written} (hsound : ∀ w ∈ settings, w.Sound)
    (hkeys : (settings.map Written.key).Nodup) :
    read (settings.flatMap Written.line) = some (settings.map Written.entry) := by
  have hnew : ∀ w ∈ settings, ∀ entry ∈ ([] : Entries), entry.1 ≠ w.key :=
    fun _ _ _ h => absurd h List.not_mem_nil
  have hlines := lines_settings hsound hkeys hnew
    (Nat.lt_succ_of_le (length_le_flatMap_line settings))
  rw [read, withoutMark_settings hsound]
  simpa using congrArg (Option.map Progress.entries) hlines

/-! ## Values -/

/-- A text begins with one of the two marks. -/
theorem write_cons (text : List Char) :
    ∃ tail, Text.write text = '"' :: tail ∨ Text.write text = '\'' :: tail := by
  unfold Text.write
  dsimp only
  repeat' split
  all_goals first | exact ⟨_, .inl rfl⟩ | exact ⟨_, .inr rfl⟩

/-- **A text stands for itself**, in whatever form it is written. -/
theorem stands_write (text : String) : Stands (Text.write text.toList) (.text text) := by
  have hread (rest : List Char) : Text.read (Text.write text.toList ++ '\n' :: rest) =
      some (text.toList, '\n' :: rest) :=
    Text.read_write text.toList (by simp) (by simp)
  obtain ⟨tail, hquote | hmark⟩ := write_cons text.toList
  · rw [hquote] at hread ⊢
    simp only [List.cons_append] at hread
    exact
      { head := by simp [isBlank]
        nonempty := List.cons_ne_nil _ _
        read := fun rest => by simp [value, hread rest] }
  · rw [hmark] at hread ⊢
    simp only [List.cons_append] at hread
    exact
      { head := by simp [isBlank]
        nonempty := List.cons_ne_nil _ _
        read := fun rest => by simp [value, hread rest] }

/-- A number stands for itself, if it is one that can be written. -/
theorem stands_toString {n : Nat} (h : Number.inRange n = true) :
    Stands (toString n).toList (.integer n) := by
  have hdigits : (toString n).toList = Nat.toDigits 10 n := by
    rw [Nat.toString_eq_ofList_toDigits, String.toList_ofList]
  obtain ⟨d, tail, hcons, hdigit, -⟩ := (figures_toDigits n).cons
  have hspace : d ≠ ' ' := ne_of_isDigit hdigit (by decide)
  have htab : d ≠ '\t' := ne_of_isDigit hdigit (by decide)
  rw [hdigits]
  exact
    { head := by simp [hcons, isBlank, hspace, htab]
      nonempty := Nat.toDigits_ne_nil
      read := value_figures h (depthLimit - 1) }

end Toml.Document

/-! ## The file of a configuration -/

namespace Config

open Toml Toml.Document

variable (c : Config)

/-- A setting whose value is a text. -/
def textSetting (key text : String) : Written := ⟨key, Text.write text.toList, .text text⟩

/-- A setting whose value is a number. -/
def numberSetting (key : String) (n : Nat) : Written := ⟨key, (toString n).toList, .integer n⟩

/-- The settings of a configuration. -/
def settings : List Written :=
  [textSetting "host" c.host, numberSetting "port" c.port.toNat,
    textSetting "guid" c.guid.text, textSetting "name" c.name,
    numberSetting "protocol_version" c.protocolVersion.toNat,
    numberSetting "connect_timeout_ms" c.connectTimeoutMs.toNat,
    numberSetting "event_queue_depth" c.eventQueueDepth.toNat]

/-- Its text has a line for each of them. -/
theorem toList_render : c.render.toList = c.settings.flatMap Written.line := by
  simp only [render, String.toList_ofList, settings, List.flatMap_cons, List.flatMap_nil,
    List.append_nil, List.append_assoc, textLine, numberLine, textSetting, numberSetting,
    Written.line]

theorem keys_settings : (c.settings.map Written.key).Nodup := by
  simp [settings, textSetting, numberSetting]

theorem inRange_iff (n : Nat) : Number.inRange n = true ↔ n ≤ 0x7FFFFFFFFFFFFFFF := by
  rw [Number.inRange, Number.bound, Bool.and_eq_true, decide_eq_true_iff, decide_eq_true_iff]
  omega

theorem sound_textSetting {key : String} (h : IsBare key) (text : String) :
    (textSetting key text).Sound := ⟨h, stands_write text⟩

theorem sound_numberSetting {key : String} (h : IsBare key) {n : Nat}
    (hroom : Number.inRange n = true) : (numberSetting key n).Sound := ⟨h, stands_toString hroom⟩

/-- They are read as they are meant, if the numbers have room. -/
theorem sound_settings (h : c.isWritable = true) : ∀ w ∈ c.settings, w.Sound := by
  obtain ⟨htimeout, hdepth⟩ := Bool.and_eq_true_iff.mp h
  have hport : Number.inRange c.port.toNat = true := by
    have := c.port.toNat_lt
    rw [inRange_iff]
    omega
  have hversion : Number.inRange c.protocolVersion.toNat = true := by
    have := c.protocolVersion.toNat_lt
    rw [inRange_iff]
    omega
  intro w hw
  simp only [settings, List.mem_cons, List.not_mem_nil, or_false] at hw
  rcases hw with rfl | rfl | rfl | rfl | rfl | rfl | rfl
  · exact sound_textSetting (by decide) _
  · exact sound_numberSetting (by decide) hport
  · exact sound_textSetting (by decide) _
  · exact sound_textSetting (by decide) _
  · exact sound_numberSetting (by decide) hversion
  · exact sound_numberSetting (by decide) htimeout
  · exact sound_numberSetting (by decide) hdepth

theorem readNatural_ofNat {limit n : Nat} (h : n < limit) :
    readNatural limit (.integer n) = some n := by simp [readNatural, h]

/-- **Its settings are the configuration.** -/
theorem ofEntries_settings : ofEntries (c.settings.map Written.entry) = some c := by
  have hguid : readGuid (.text c.guid.text) = some c.guid := by
    simp [readGuid, readText, c.guid.ofText?_text]
  have hport := readNatural_ofNat c.port.toNat_lt
  have hversion := readNatural_ofNat c.protocolVersion.toNat_lt
  have htimeout := readNatural_ofNat c.connectTimeoutMs.toNat_lt
  have hdepth := readNatural_ofNat c.eventQueueDepth.toNat_lt
  simp [ofEntries, setting, Entries.get?, List.lookup_cons, settings, textSetting, numberSetting,
    Written.entry, readText, hguid, hport, hversion, htimeout, hdepth]

/-- What describes a configuration is read as that configuration. -/
theorem ofText?_render (h : c.isWritable = true) : ofText? c.render = some c := by
  have hread := read_settings (c.sound_settings h) c.keys_settings
  rw [← toList_render] at hread
  rw [ofText?, hread]
  exact c.ofEntries_settings

/-- The bytes of a text describe what it describes. -/
theorem ofBytes?_toUTF8 (text : String) : ofBytes? text.toUTF8.data.toList = ofText? text := by
  have hread := (Utf8.fromUTF8?_eq_some_iff _ text).mpr (Utf8.toUTF8_eq text).symm
  rw [ofBytes?, hread]
  rfl

/-- A configuration is in a file and nothing else was changed. -/
structure Saved (path : String) (files after : Files) : Prop where
  loaded : load path after = some c
  others : ∀ other, other ≠ path → after other = files other

theorem saved_write (h : c.isWritable = true) (path : String) (files : Files) :
    c.Saved path files (files.write path c.render.toUTF8.data.toList) where
  loaded := by
    have hfile : files.write path c.render.toUTF8.data.toList path =
        some c.render.toUTF8.data.toList := if_pos rfl
    rw [load, hfile, Option.bind_eq_bind, Option.bind_some, ofBytes?_toUTF8, c.ofText?_render h]
  others other hother := if_neg hother

theorem run_save (path : String) (files : Files) :
    (c.save path).run files =
      if c.isWritable then (some (), files.write path c.render.toUTF8.data.toList)
      else (none, files) := by
  unfold save render?
  split <;> rfl

/-- A configuration is saved, and its file then holds that very configuration, just if its two
numbers without a narrower bound are 2^63 - 1 at most.  Else saving it fails, and all files are as
they were. -/
theorem load_save (path : String) (files : Files) :
    ((∃ after, (c.save path).run files = (some (), after) ∧ c.Saved path files after) ↔
      c.connectTimeoutMs ≤ 0x7FFFFFFFFFFFFFFF ∧ c.eventQueueDepth ≤ 0x7FFFFFFFFFFFFFFF) ∧
    ((c.save path).run files = (none, files) ↔
      ¬ (c.connectTimeoutMs ≤ 0x7FFFFFFFFFFFFFFF ∧ c.eventQueueDepth ≤ 0x7FFFFFFFFFFFFFFF)) := by
  have hroom : c.isWritable = true ↔
      c.connectTimeoutMs ≤ 0x7FFFFFFFFFFFFFFF ∧ c.eventQueueDepth ≤ 0x7FFFFFFFFFFFFFFF := by
    rw [isWritable, Bool.and_eq_true, inRange_iff, inRange_iff, UInt64.le_iff_toNat_le,
      UInt64.le_iff_toNat_le]
    rfl
  rw [← hroom, run_save]
  by_cases h : c.isWritable = true
  · rw [if_pos h]
    have hfailed : (some (), files.write path c.render.toUTF8.data.toList) ≠ (none, files) := by
      simp
    exact ⟨iff_of_true ⟨_, rfl, c.saved_write h path files⟩ h,
      iff_of_false hfailed (not_not_intro h)⟩
  · rw [if_neg h]
    have hdone : ¬ ∃ after, (none, files) = (some (), after) ∧ c.Saved path files after := by
      simp
    exact ⟨iff_of_false hdone h, iff_of_true rfl h⟩

end Config

end PictureTransfer
