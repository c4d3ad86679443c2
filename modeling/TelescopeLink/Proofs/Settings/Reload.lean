import TelescopeLink.Proofs.Settings.Writable
import TelescopeLink.Proofs.Text.Utf8
import TelescopeLink.Proofs.Toml.Document

/-!
# Settings survive being saved

Settings that were loaded can be saved, and loading what was saved gives them again
(`reloads_unchanged`). What is saved is a document of four sections. It spells the statements that
give each setting its value (`toToml_spells`); these build the table of all settings
(`build_statements`); and each setting is found in it under its name (`ofMembers?_members`).

The table of times has no order. It is saved in some order, and none makes a difference.
-/

namespace TelescopeLink

open Toml

namespace Settings

/-! ### What was written spells the settings -/

/-- What has 63 bits is a whole number of TOML. -/
theorem fits_of_lt {n : Nat} (h : n < 1 <<< 63) : Fits n := by
  rw [fits_iff]
  omega

theorem fits_uint16 (n : UInt16) : Fits n.toNat := by
  have hn : n.toNat < 65536 := n.toNat_lt
  exact fits_of_lt (by omega)

theorem fits_int32 (n : Int32) : Fits n.toInt := by
  have hlow : -2147483648 ≤ n.toInt := n.le_toInt
  have hhigh : n.toInt < 2147483648 := n.toInt_lt
  rw [fits_iff]
  omega

/-- A line with a number says the number. -/
theorem intLine_assigns (key : String) {n : Int} (h : Fits n) :
    Assigns (intLine key n) (key, .whole n) :=
  ⟨Text.intDigits n, .whole h, by simp [intLine, line]⟩

/-- So does a line with a text, whatever the text is. -/
theorem textLine_assigns (key : String) (s : String) : Assigns (textLine key s) (key, .text s) :=
  ⟨textOf s.toList, .text s, by simp [textLine, line]⟩

theorem uint64Line?_of_lt (key : String) {n : UInt64} (h : n.toNat < 1 <<< 63) :
    uint64Line? key n = some (intLine key n.toNat) := if_pos h

end Settings

/-- The settings of the link by their names. -/
def NetworkSettings.pairs (settings : NetworkSettings) : List (String × Value) := [
  ("local_port", .whole settings.localPort.toNat),
  ("remote_host", .text settings.remoteHost),
  ("remote_port", .whole settings.remotePort.toNat),
  ("local_id", .whole settings.localId.toInt),
  ("remote_id", .whole settings.remoteId.toInt),
  ("service_class", .whole settings.serviceClass.toInt),
  ("read_timeout_ms", .whole settings.readTimeoutMillis.toNat),
  ("receive_buffer", .whole settings.receiveBuffer.toNat)]

/-- The settings of the handling of requests by their names, the times of commands apart. -/
def ProxySettings.pairs (settings : ProxySettings) : List (String × Value) := [
  ("dialect", .text settings.dialect),
  ("start_sequence", .whole settings.startSequence.toInt),
  ("dispatch_poll_ms", .whole settings.dispatchPollMillis.toNat),
  ("default_timeout_ms", .whole settings.defaultTimeoutMillis.toNat)]

/-- The times of commands by their names. -/
def ProxySettings.timePairs (settings : ProxySettings) : List (String × Value) :=
  settings.timeouts.map fun (name, millis) => (name, .whole millis.toNat)

namespace Settings

/-- The section of the link says each of its settings. -/
theorem networkLines?_assign {settings : Settings} (h : settings.Writable) :
    ∃ lines, networkLines? settings.network = some ("[network]\n".toList :: lines) ∧
      List.Forall₂ Assigns lines settings.network.pairs := by
  have hread := uint64Line?_of_lt "read_timeout_ms" h.network.readTimeout
  have hbuffer := uint64Line?_of_lt "receive_buffer" h.network.receiveBuffer
  refine ⟨_, by rw [networkLines?, hread, hbuffer]; rfl, ?_⟩
  simp only [NetworkSettings.pairs, List.forall₂_cons, List.forall₂_nil_left_iff, and_true]
  exact ⟨intLine_assigns _ (fits_uint16 _), textLine_assigns _ _,
    intLine_assigns _ (fits_uint16 _), intLine_assigns _ (fits_int32 _),
    intLine_assigns _ (fits_int32 _), intLine_assigns _ (fits_int32 _),
    intLine_assigns _ (fits_of_lt h.network.readTimeout),
    intLine_assigns _ (fits_of_lt h.network.receiveBuffer)⟩

theorem times_assign {times : List (String × UInt64)}
    (h : ∀ entry ∈ times, entry.2.toNat < 1 <<< 63) :
    ∃ lines, times.mapM (fun (name, millis) => uint64Line? name millis) = some lines ∧
      List.Forall₂ Assigns lines (times.map fun (name, millis) => (name, .whole millis.toNat)) := by
  induction times with
  | nil => exact ⟨[], rfl, .nil⟩
  | cons entry times ih =>
    obtain ⟨hentry, htimes⟩ := List.forall_mem_cons.mp h
    obtain ⟨lines, hlines, hassign⟩ := ih htimes
    refine ⟨intLine entry.1 entry.2.toNat :: lines, ?_, ?_⟩
    · simp [List.mapM_cons, hlines, uint64Line?_of_lt entry.1 hentry]
    · exact .cons (intLine_assigns entry.1 (fits_of_lt hentry)) hassign

/-- So do the two sections of the handling of requests, the second for the times alone. -/
theorem proxyLines?_assign {settings : Settings} (h : settings.Writable) :
    ∃ lines times, proxyLines? settings.proxy =
        some ("[proxy]\n".toList :: lines ++ "\n[proxy.timeouts]\n".toList :: times) ∧
      List.Forall₂ Assigns lines settings.proxy.pairs ∧
      List.Forall₂ Assigns times settings.proxy.timePairs := by
  have hpoll := uint64Line?_of_lt "dispatch_poll_ms" h.proxy.dispatchPoll
  have hdefault := uint64Line?_of_lt "default_timeout_ms" h.proxy.defaultTimeout
  obtain ⟨times, htimes, hassign⟩ := times_assign h.proxy.times
  refine ⟨[textLine "dialect" settings.proxy.dialect,
    intLine "start_sequence" settings.proxy.startSequence.toInt,
    intLine "dispatch_poll_ms" settings.proxy.dispatchPollMillis.toNat,
    intLine "default_timeout_ms" settings.proxy.defaultTimeoutMillis.toNat], times, ?_, ?_, hassign⟩
  · rw [proxyLines?, hpoll, hdefault, htimes]
    rfl
  simp only [ProxySettings.pairs, List.forall₂_cons, List.forall₂_nil_left_iff, and_true]
  exact ⟨textLine_assigns _ _, intLine_assigns _ (fits_int32 _),
    intLine_assigns _ (fits_of_lt h.proxy.dispatchPoll),
    intLine_assigns _ (fits_of_lt h.proxy.defaultTimeout)⟩

/-- What a document of settings says. -/
def statements (settings : Settings) : List Statement :=
  let assign (pair : String × Value) : Statement := .assign [] pair.1 pair.2
  .header [] "network" :: (settings.network.pairs.map assign ++
    .header [] "proxy" :: (settings.proxy.pairs.map assign ++
      .header ["proxy"] "timeouts" :: (settings.proxy.timePairs.map assign ++
        .header [] "logging" :: ([("level", .text settings.logging.level)].map assign ++ []))))

/-- Settings that can be written are written as a document that says them. -/
theorem toToml_spells {settings : Settings} (h : settings.Writable) :
    ∃ more, settings.toToml = .ok (String.ofList ('[' :: more)) ∧
      Spells ('[' :: more) settings.statements := by
  obtain ⟨networkLines, hnetwork, hnetworkAssign⟩ := networkLines?_assign h
  obtain ⟨proxyLines, times, hproxy, hproxyAssign, htimesAssign⟩ := proxyLines?_assign h
  have hlogging : List.Forall₂ Assigns [textLine "level" settings.logging.level]
      [("level", .text settings.logging.level)] := .cons (textLine_assigns _ _) .nil
  -- From the last line to the first.
  have hlast := Spells.nil.below [] "logging" (by decide) hlogging
  have hfromTimes := hlast.blank.below ["proxy"] "timeouts" (by decide) htimesAssign
  have hfromProxy := hfromTimes.blank.below [] "proxy" (by decide) hproxyAssign
  have hall := hfromProxy.blank.below [] "network" (by decide) hnetworkAssign
  refine ⟨_, ?_, hall⟩
  have hnetworkHeader : "[network]\n".toList =
      '[' :: (dotted ([] ++ ["network"]) ++ [']', '\n']) := by decide
  have hproxyHeader : "[proxy]\n".toList =
      '[' :: (dotted ([] ++ ["proxy"]) ++ [']', '\n']) := by decide
  have htimesHeader : "\n[proxy.timeouts]\n".toList =
      '\n' :: '[' :: (dotted (["proxy"] ++ ["timeouts"]) ++ [']', '\n']) := by decide
  have hloggingHeader : "[logging]\n".toList =
      '[' :: (dotted ([] ++ ["logging"]) ++ [']', '\n']) := by decide
  simp only [toToml, hnetwork, hproxy, loggingLines, hnetworkHeader, hproxyHeader, htimesHeader,
    hloggingHeader, List.flatten_cons, List.flatten_append, List.flatten_nil, List.append_assoc,
    List.cons_append, List.nil_append]

/-! ### What is spelled gives the settings -/

/-- Settings as the table of their document. -/
def members (settings : Settings) : List (String × Value) := [
  ("network", .table settings.network.pairs),
  ("proxy", .table (settings.proxy.pairs ++ [("timeouts", .table settings.proxy.timePairs)])),
  ("logging", .table [("level", .text settings.logging.level)])]

/-- **The statements of settings make up their table**: each section is opened once and filled, and
no name stands twice in it. -/
theorem build_statements {settings : Settings}
    (hkeys : (settings.proxy.timeouts.map Prod.fst).Nodup) :
    build settings.statements = some settings.members := by
  have hnetwork : (settings.network.pairs.map Prod.fst).Nodup := by simp [NetworkSettings.pairs]
  have hproxy : (settings.proxy.pairs.map Prod.fst).Nodup := by simp [ProxySettings.pairs]
  have htimes : (settings.proxy.timePairs.map Prod.fst).Nodup := by
    simpa [ProxySettings.timePairs, Function.comp_def] using hkeys
  let network := Table.ofPairs settings.network.pairs
  let proxy := Table.ofPairs settings.proxy.pairs
  let times := Table.ofPairs settings.proxy.timePairs
  let logging := Table.ofPairs [("level", .text settings.logging.level)]
  let root₁ := Table.empty.insert "network" (.table network)
  let root₂ := root₁.insert "proxy" (.table (proxy.insert "timeouts" (.table times)))
  let root₃ := root₂.insert "logging" (.table logging)
  have hroot₁ : root₁.entries = [("network", .table network)] := rfl
  have hproxyNew : root₁.entries.lookup "proxy" = none :=
    Table.lookup_eq_none_iff.mpr (by simp [hroot₁])
  have hroot₂ : root₂.entries = [("network", .table network),
      ("proxy", .table (proxy.insert "timeouts" (.table times)))] := by
    simp [root₂, Table.insert_of_none hproxyNew, hroot₁]
  have htimesNew : proxy.entries.lookup "timeouts" = none :=
    Table.lookup_ofPairs_eq_none (by simp [ProxySettings.pairs])
  have hloggingNew : root₂.entries.lookup "logging" = none :=
    Table.lookup_eq_none_iff.mpr (by simp [hroot₂])
  -- Section by section; the one for the times is opened inside the one before.
  have hbuilt : settings.statements.foldlM Draft.add {} = some ⟨root₃, ["logging"]⟩ := by
    refine (foldlM_section [] Table.empty "network" rfl hnetwork [] _).trans ?_
    refine (foldlM_section [] root₁ "proxy" hproxyNew hproxy ["network"] _).trans ?_
    refine (foldlM_section [(root₁, "proxy")] proxy "timeouts" htimesNew htimes
      ["proxy"] _).trans ?_
    exact foldlM_section [] root₂ "logging" hloggingNew (by simp) ["proxy", "timeouts"] []
  rw [build, hbuilt]
  have hproxyMembers : Table.toMembers (proxy.insert "timeouts" (.table times)).entries =
      settings.proxy.pairs ++ [("timeouts", .table settings.proxy.timePairs)] := by
    simp [Table.insert_of_none htimesNew, proxy, times, Table.toMembers, Item.toValue,
      Table.toValue_eq]
  simp [root₃, Table.insert_of_none hloggingNew, hroot₂, members, Table.toMembers, Item.toValue,
    Table.toValue_eq, hproxyMembers, network, logging]

/-- A number that came from a setting fits into it again. -/
@[simp] theorem uint16?_whole (n : UInt16) : uint16? (.whole n.toNat) = some n := by
  have hn : n.toNat < 65536 := n.toNat_lt
  have hbounds : (0 : Int) ≤ n.toNat ∧ (n.toNat : Int) ≤ 0xFFFF := by omega
  simp [uint16?, whole?, hbounds]

@[simp] theorem int32?_whole (n : Int32) : int32? (.whole n.toInt) = some n := by
  have hbounds : Int32.minValue.toInt ≤ n.toInt ∧ n.toInt ≤ Int32.maxValue.toInt :=
    ⟨n.minValue_le_toInt, n.toInt_le⟩
  rw [int32?, whole?, if_pos hbounds]
  simp

@[simp] theorem uint64?_whole (n : UInt64) : uint64? (.whole n.toNat) = some n := by
  have hn : n.toNat < 18446744073709551616 := n.toNat_lt
  have hbounds : (0 : Int) ≤ n.toNat ∧ (n.toNat : Int) ≤ 0xFFFFFFFFFFFFFFFF := by omega
  simp [uint64?, whole?, hbounds]

@[simp] theorem text?_text (s : String) : text? (.text s) = some s := rfl

@[simp] theorem times?_timePairs (proxy : ProxySettings) :
    times? (.table proxy.timePairs) = some proxy.timeouts := by
  simp only [times?, ProxySettings.timePairs]
  induction proxy.timeouts with
  | nil => rfl
  | cons entry times ih => simp [List.mapM_cons, ih]

/-- A setting is found under its own name. -/
@[simp] theorem Source.read_named_self {α : Type} (place : Nat) (name : String) (value : Value)
    (members : List (String × Value)) (read : Value → Option α) (default : α) :
    (Source.named ((name, value) :: members)).read place name read default = read value := by
  simp [Source.read, Source.get?]

/-- Settings of other names before it are passed over. -/
@[simp] theorem Source.read_named_of_ne {α : Type} {name other : String} (h : name ≠ other)
    (place : Nat) (value : Value) (members : List (String × Value)) (read : Value → Option α)
    (default : α) :
    (Source.named ((other, value) :: members)).read place name read default =
      (Source.named members).read place name read default := by
  have hne : (name == other) = false := by simpa using h
  rw [Source.read, Source.read, Source.get?, Source.get?, List.lookup_cons, hne]

@[simp] theorem network?_pairs (network : NetworkSettings) :
    network? (.table network.pairs) = some network := by
  simp [network?, Source.ofValue?, NetworkSettings.pairs]

@[simp] theorem proxy?_pairs (proxy : ProxySettings) :
    proxy? (.table (proxy.pairs ++ [("timeouts", .table proxy.timePairs)])) = some proxy := by
  simp [proxy?, Source.ofValue?, ProxySettings.pairs]

@[simp] theorem logging?_pair (logging : LoggingSettings) :
    logging? (.table [("level", .text logging.level)]) = some logging := by
  simp [logging?, Source.ofValue?]

/-- Every setting is read from the table with its value, so no default is needed. -/
theorem ofMembers?_members (settings : Settings) :
    ofMembers? settings.members = some settings := by
  simp [ofMembers?, members]

/-! ### Saving and loading -/

/-- Settings that can be written and used are loaded from what is saved. -/
theorem ofFile_of_writable {settings : Settings} (h : settings.Writable)
    (hproblem : settings.problem? = none) :
    ∃ text, settings.toToml = .ok text ∧ ofFile (Text.encode text.toList) = .ok settings := by
  obtain ⟨more, htext, hspells⟩ := toToml_spells h
  refine ⟨_, htext, ofFile_eq_ok_iff.mpr ⟨'[' :: more, ?_, ?_, hproblem⟩⟩
  · rw [String.toList_ofList, Text.decode?, Text.decode_encode, if_pos rfl]
  · refine ofToml_eq_ok_iff.mpr ⟨settings.members, ?_, ofMembers?_members settings⟩
    rw [String.toList_ofList, parse_of_spells hspells (by simp), build_statements h.proxy.keys]

/-- The same settings. A table of times has no order, so it may be told in any. -/
def withTimeouts (settings : Settings) (timeouts : List (String × UInt64)) : Settings :=
  { settings with proxy := { settings.proxy with timeouts } }

theorem Writable.withTimeouts {settings : Settings} (h : settings.Writable)
    {timeouts : List (String × UInt64)} (hperm : timeouts.Perm settings.proxy.timeouts) :
    (settings.withTimeouts timeouts).Writable where
  network := h.network
  proxy := {
    dispatchPoll := h.proxy.dispatchPoll
    defaultTimeout := h.proxy.defaultTimeout
    times := fun entry hentry => h.proxy.times entry (hperm.mem_iff.mp hentry)
    keys := (hperm.map Prod.fst).nodup_iff.mpr h.proxy.keys }

/-- In whatever order a table is told, a name has the same entry. -/
theorem lookup_eq_of_perm {α : Type} {entries others : List (String × α)}
    (hperm : entries.Perm others) (hkeys : (entries.map Prod.fst).Nodup) (name : String) :
    entries.lookup name = others.lookup name := by
  -- By the steps of a permutation. Two neighbours that change places have different names.
  induction hperm with
  | nil => rfl
  | cons entry _ ih =>
    rw [List.map_cons, List.nodup_cons] at hkeys
    rw [List.lookup_cons, List.lookup_cons, ih hkeys.2]
  | swap first second entries =>
    have hne : second.1 ≠ first.1 := by
      simp only [List.map_cons, List.nodup_cons, List.mem_cons, not_or] at hkeys
      exact hkeys.1.1
    rw [List.lookup_cons, List.lookup_cons, List.lookup_cons, List.lookup_cons]
    by_cases hname : name = first.1
    · have hother : (name == second.1) = false := by simpa [hname] using Ne.symm hne
      rw [hother]
    · have hother : (name == first.1) = false := by simpa using hname
      rw [hother]
  | trans hfirst _ ih₁ ih₂ =>
    exact (ih₁ hkeys).trans (ih₂ ((hfirst.map Prod.fst).nodup_iff.mp hkeys))

/-- Settings that were loaded can be saved, and what was saved is loaded as the same settings. In
the table of times no name stands twice, and in whatever order it is saved, each name has its time.
-/
theorem reloads_unchanged {bytes : List UInt8} {settings : Settings}
    (h : ofFile bytes = .ok settings) :
    (settings.proxy.timeouts.map Prod.fst).Nodup ∧
      ∀ timeouts, timeouts.Perm settings.proxy.timeouts →
        (∀ name, timeouts.lookup name = settings.proxy.timeouts.lookup name) ∧
        ∃ text, (settings.withTimeouts timeouts).toToml = .ok text ∧
          ofFile (Text.encode text.toList) = .ok (settings.withTimeouts timeouts) := by
  have hwritable := writable_of_ofFile h
  obtain ⟨-, -, -, hproblem⟩ := ofFile_eq_ok_iff.mp h
  refine ⟨hwritable.proxy.keys, fun timeouts hperm => ?_⟩
  have hpermuted := hwritable.withTimeouts hperm
  refine ⟨lookup_eq_of_perm hperm hpermuted.proxy.keys, ?_⟩
  -- What is wrong with settings does not depend on the table.
  exact ofFile_of_writable hpermuted hproblem

/-- A file that says what it can in the oddest way: the logging as an array, with a level that holds
the quotes of a literal text and a control character, and two timeouts behind dotted keys, one of a
line break, both quotes and a backslash, with the largest number there is, and one that is empty, with
no time at all. It is saved with its table turned round. -/
theorem reloads_unchanged_odd_texts :
    ∃ bytes settings, ofFile bytes = .ok settings ∧ settings.logging.level = "'''\x01" ∧
      settings.proxy.timeouts = [("\n\"'\\", 9223372036854775807), ("", 0)] ∧
      ∃ text, (settings.withTimeouts settings.proxy.timeouts.reverse).toToml = .ok text ∧
        ofFile (Text.encode text.toList) =
          .ok (settings.withTimeouts settings.proxy.timeouts.reverse) := by
  have hload : ofFile (Text.encode ("logging=[\"'''\\u0001\"]\n[proxy]\n" ++
      "timeouts.\"\\n\\\"'\\\\\"=9223372036854775807\ntimeouts.''=0").toList) =
      .ok (withTimeouts { logging := { level := "'''\x01" } }
        [("\n\"'\\", 9223372036854775807), ("", 0)]) := by decide +kernel
  obtain ⟨-, hreload⟩ := reloads_unchanged hload
  exact ⟨_, _, hload, rfl, rfl, (hreload _ (List.reverse_perm _)).2⟩

end Settings

end TelescopeLink
