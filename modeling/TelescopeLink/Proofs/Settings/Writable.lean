import TelescopeLink.Proofs.Toml.Regular
import TelescopeLink.Settings.Toml

/-!
# Settings that were read can be written

TOML has no whole numbers above `2 ^ 63 - 1`, while a setting of 64 bits has room for twice as many.
Settings that came out of a document are below that bound all the same: what a document says is
regular (`regular_of_parse`), and each setting is a value of the document or its default. For the
same reason no name stands twice in the table of times. So what a file gave is `Writable`
(`writable_of_ofFile`).
-/

namespace TelescopeLink

open Toml

/-- The settings of the link have an expression in TOML. -/
structure NetworkSettings.Writable (settings : NetworkSettings) : Prop where
  readTimeout : settings.readTimeoutMillis.toNat < 1 <<< 63
  receiveBuffer : settings.receiveBuffer.toNat < 1 <<< 63

/-- The settings of the handling of requests have an expression in TOML, and no command has two
times. -/
structure ProxySettings.Writable (settings : ProxySettings) : Prop where
  dispatchPoll : settings.dispatchPollMillis.toNat < 1 <<< 63
  defaultTimeout : settings.defaultTimeoutMillis.toNat < 1 <<< 63
  times : ∀ entry ∈ settings.timeouts, entry.2.toNat < 1 <<< 63
  keys : (settings.timeouts.map Prod.fst).Nodup

theorem NetworkSettings.Writable.default : NetworkSettings.Writable {} := ⟨by decide, by decide⟩

theorem ProxySettings.Writable.default : ProxySettings.Writable {} :=
  ⟨by decide, by decide, by simp, by simp⟩

/-- All settings have an expression in TOML. -/
structure Settings.Writable (settings : Settings) : Prop where
  network : settings.network.Writable
  proxy : settings.proxy.Writable

namespace Settings

/-! ### Single settings -/

/-- A number of a document fits, whatever room the setting has for it. -/
theorem whole?_of_regular {low high n : Int} {value : Value} (hvalue : value.Regular)
    (h : whole? low high value = some n) : Fits n ∧ low ≤ n := by
  cases hvalue with
  | whole hfits =>
    simp only [whole?] at h
    split_ifs at h with hbounds
    obtain rfl := Option.some.inj h
    exact ⟨hfits, hbounds.1⟩
  | _ => cases h

/-- A setting of 64 bits gets at most 63 of them from a document. -/
theorem uint64?_lt {n : UInt64} {value : Value} (hvalue : value.Regular)
    (h : uint64? value = some n) : n.toNat < 1 <<< 63 := by
  obtain ⟨m, hm, rfl⟩ := Option.map_eq_some_iff.mp h
  obtain ⟨hfits, hlow⟩ := whole?_of_regular hvalue hm
  have hhigh := (fits_iff.mp hfits).2
  rw [UInt64.toNat_ofNat']
  omega

/-- Times of a document fit, and no name has two. -/
theorem times?_writable {times : List (String × UInt64)} {value : Value} (hvalue : value.Regular)
    (h : times? value = some times) :
    (∀ entry ∈ times, entry.2.toNat < 1 <<< 63) ∧ (times.map Prod.fst).Nodup := by
  cases hvalue with
  | @table members keys hmembers =>
    simp only [times?] at h
    -- Each member gives one entry of its own name, so the names stay apart.
    suffices hentries : (∀ entry ∈ times, entry.2.toNat < 1 <<< 63) ∧
        times.map Prod.fst = members.map Prod.fst from ⟨hentries.1, hentries.2 ▸ keys⟩
    clear keys
    induction members generalizing times with
    | nil =>
      obtain rfl := Option.some.inj h
      simp
    | cons member members ih =>
      obtain ⟨hmember, hmembers⟩ := List.forall_mem_cons.mp hmembers
      simp only [List.mapM_cons, Option.bind_eq_bind, Option.bind_eq_some_iff] at h
      obtain ⟨entry, hentry, rest, hrest, h⟩ := h
      obtain rfl := Option.some.inj h
      obtain ⟨n, hn, rfl⟩ := Option.map_eq_some_iff.mp hentry
      obtain ⟨htimes, hkeys⟩ := ih hmembers hrest
      exact ⟨List.forall_mem_cons.mpr ⟨uint64?_lt hmember hn, htimes⟩, by simp [hkeys]⟩
  | _ => cases h

/-! ### Parts -/

/-- Where settings are looked for holds regular values only. -/
def Source.Regular : Source → Prop
  | .named members => (Value.table members).Regular
  | .listed items => (Value.array items).Regular

/-- A section of any kind, table or array, hands its values on. -/
theorem Source.regular_of_ofValue? {value : Value} {source : Source} (hvalue : value.Regular)
    (h : Source.ofValue? value = some source) : source.Regular := by
  cases hvalue with
  | array hitems =>
    obtain rfl := Option.some.inj h
    exact .array hitems
  | table keys hmembers =>
    obtain rfl := Option.some.inj h
    exact .table keys hmembers
  | moment _ =>
    obtain rfl := Option.some.inj h
    exact .table List.nodup_nil (by simp)
  | _ => cases h

/-- What is found in a regular place is regular. -/
theorem Source.regular_of_get? {source : Source} (hsource : source.Regular) {place : Nat}
    {name : String} {value : Value} (h : source.get? place name = some value) : value.Regular := by
  cases source with
  | named members =>
    obtain ⟨before, after, hmembers, -⟩ := List.lookup_eq_some_iff.mp h
    cases hsource with
    | table _ hall => exact hall (name, value) (by simp [hmembers])
  | listed items =>
    cases hsource with
    | array hall => exact hall value (List.mem_of_getElem? h)

/-- A setting that was read is its default, or a regular value gave it. -/
theorem Source.read_cases {α : Type} {source : Source} (hsource : source.Regular) {place : Nat}
    {name : String} {read : Value → Option α} {default result : α}
    (h : source.read place name read default = some result) :
    result = default ∨ ∃ value, value.Regular ∧ read value = some result := by
  rw [Source.read] at h
  cases hget : source.get? place name with
  | none =>
    rw [hget] at h
    exact .inl (Option.some.inj h).symm
  | some value =>
    rw [hget] at h
    exact .inr ⟨value, Source.regular_of_get? hsource hget, h⟩

theorem Source.read_uint64_lt {source : Source} (hsource : source.Regular) {place : Nat}
    {name : String} {default n : UInt64} (hdefault : default.toNat < 1 <<< 63)
    (h : source.read place name uint64? default = some n) : n.toNat < 1 <<< 63 := by
  rcases Source.read_cases hsource h with rfl | ⟨value, hvalue, hread⟩
  · exact hdefault
  · exact uint64?_lt hvalue hread

/-- Each setting of the link is regular or a default, and the defaults are small. -/
theorem network?_writable {network : NetworkSettings} {value : Value} (hvalue : value.Regular)
    (h : network? value = some network) : network.Writable := by
  simp only [network?, Option.bind_eq_bind, Option.bind_eq_some_iff] at h
  obtain ⟨source, hsource, _, -, _, -, _, -, _, -, _, -, _, -, _, hread, _, hbuffer, h⟩ := h
  obtain rfl := Option.some.inj h
  have hregular := Source.regular_of_ofValue? hvalue hsource
  exact ⟨Source.read_uint64_lt hregular (by decide) hread,
    Source.read_uint64_lt hregular (by decide) hbuffer⟩

/-- So are those of the handling of requests, its times included. -/
theorem proxy?_writable {proxy : ProxySettings} {value : Value} (hvalue : value.Regular)
    (h : proxy? value = some proxy) : proxy.Writable := by
  simp only [proxy?, Option.bind_eq_bind, Option.bind_eq_some_iff] at h
  obtain ⟨source, hsource, _, -, _, -, _, hpoll, _, hdefault, times, htimes, h⟩ := h
  obtain rfl := Option.some.inj h
  have hregular := Source.regular_of_ofValue? hvalue hsource
  obtain ⟨hbound, hkeys⟩ : (∀ entry ∈ times, entry.2.toNat < 1 <<< 63) ∧
      (times.map Prod.fst).Nodup := by
    rcases Source.read_cases hregular htimes with rfl | ⟨value, hvalue, hread⟩
    · simp
    · exact times?_writable hvalue hread
  exact ⟨Source.read_uint64_lt hregular (by decide) hpoll,
    Source.read_uint64_lt hregular (by decide) hdefault, hbound, hkeys⟩

/-! ### All settings -/

/-- Whatever document the settings were read from, they can be written. -/
theorem writable_of_ofMembers? {members : List (String × Value)} {settings : Settings}
    (hmembers : (Value.table members).Regular) (h : ofMembers? members = some settings) :
    settings.Writable := by
  simp only [ofMembers?, Option.bind_eq_bind, Option.bind_eq_some_iff] at h
  obtain ⟨network, hnetwork, proxy, hproxy, _, -, h⟩ := h
  obtain rfl := Option.some.inj h
  have hregular : (Source.named members).Regular := hmembers
  constructor
  · rcases Source.read_cases hregular hnetwork with rfl | ⟨value, hvalue, hread⟩
    · exact .default
    · exact network?_writable hvalue hread
  · rcases Source.read_cases hregular hproxy with rfl | ⟨value, hvalue, hread⟩
    · exact .default
    · exact proxy?_writable hvalue hread

/-- A document gives settings if it is one and its table has all that is needed. -/
theorem ofToml_eq_ok_iff {text : String} {settings : Settings} :
    ofToml text = .ok settings ↔
      ∃ members, parse text.toList = some members ∧ ofMembers? members = some settings := by
  rw [ofToml, ← Option.bind_eq_some_iff]
  cases (parse text.toList).bind ofMembers? <;> simp

/-- A file gives settings if it is a text that gives them and nothing is wrong with them. -/
theorem ofFile_eq_ok_iff {bytes : List UInt8} {settings : Settings} :
    ofFile bytes = .ok settings ↔ ∃ cs, Text.decode? bytes = some cs ∧
      ofToml (String.ofList cs) = .ok settings ∧ settings.problem? = none := by
  rw [ofFile]
  cases hdecode : Text.decode? bytes with
  | none => simp [throw, throwThe, MonadExceptOf.throw]
  | some cs =>
    cases htoml : ofToml (String.ofList cs) with
    | error _ => simp [htoml, bind, Except.bind]
    | ok read =>
      cases hproblem : read.problem? with
      | none =>
        have hvalid : read.validate = .ok () := by simp [validate, hproblem]
        simp only [hvalid, htoml, bind, Except.bind, pure, Except.pure, Except.ok.injEq,
          Option.some.injEq, exists_eq_left']
        exact ⟨fun h => ⟨h, h ▸ hproblem⟩, And.left⟩
      | some problem =>
        have hinvalid : read.validate = .error (.unusableSettings problem) := by
          simp [validate, hproblem]
        simp only [hinvalid, htoml, bind, Except.bind, reduceCtorEq, Except.ok.injEq,
          Option.some.injEq, exists_eq_left', false_iff, not_and]
        rintro rfl
        simp [hproblem]

/-- Settings that were loaded can be written. -/
theorem writable_of_ofFile {bytes : List UInt8} {settings : Settings}
    (h : ofFile bytes = .ok settings) : settings.Writable := by
  obtain ⟨cs, -, htoml, -⟩ := ofFile_eq_ok_iff.mp h
  obtain ⟨members, hparse, hmembers⟩ := ofToml_eq_ok_iff.mp htoml
  exact writable_of_ofMembers? (regular_of_parse hparse) hmembers

end Settings

end TelescopeLink
