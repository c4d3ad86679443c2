import TelescopeLink.Proofs.Bridge.Transmission
import TelescopeLink.Proofs.Dialect.Rendering
import TelescopeLink.Proofs.Message.Datagram

/-!
# What a datagram says

The datagram by which a request is sent is read back as the command message of that request, with
the text that the dialect gave and that the request has recorded (`send_carries`) — up to a NUL. The
dialects let NUL pass in names, keys and raw texts, and on the wire it ends the text, so what stands
behind it is lost although it is recorded as sent (`send_loses_text_behind_nul`).
-/

namespace TelescopeLink

namespace Bridge

/-- What sending a request comes to, if it puts a datagram on the link. -/
theorem send_of_posted {bridge : Bridge} {place : Nat} {bytes : Datagram}
    (hposted : bridge.posted? place = some bytes) :
    ∃ request text, bridge.requests[place]? = some request ∧
      bridge.dialect.render request.command = .ok (some text) ∧
      bytes = bridge.datagram request text ∧
      bridge.send place =
        ((bridge.recorded place text).around (bridge.link.post [bytes]) bridge.running, false) := by
  obtain ⟨request, text, hrequest, hrender, rfl, htakes⟩ := posted?_eq_some_iff.mp hposted
  refine ⟨request, text, hrequest, hrender, rfl, ?_⟩
  rw [send, hrequest]
  dsimp only
  rw [attempt_of_sent hrender (Link.send_of_takes htakes)]

/-- **What a datagram says.** If sending a request puts a datagram on the link, the request has
recorded the text of its command in the dialect, and reading the datagram gives the addresses and
the service class of the endpoint, the class of commands, the number of the request, and that text
up to its first NUL. This is the whole text exactly if there is no NUL in the name, the key or the
raw text that the caller gave. -/
theorem send_carries {bridge : Bridge} {place : Nat} {bytes : Datagram}
    (hposted : bridge.posted? place = some bytes) :
    (bridge.send place).1.link = bridge.link.post [bytes] ∧
      ∃ request text, bridge.requests[place]? = some request ∧
        bridge.dialect.render request.command = .ok (some text) ∧
        (bridge.send place).1.requests[place]? = some { request with wireText := some text } ∧
        Datagram.read bytes =
          .ok ({ sender := bridge.endpoint.localId
                 receiver := bridge.endpoint.remoteId
                 classCode := MessageClass.command.code
                 serviceClass := bridge.endpoint.serviceClass
                 sequence := request.sequence
                 text := Text.beforeNul text }, bridge.clock) ∧
        (Text.beforeNul text = text ↔ '\x00' ∉ request.command.ownText.toList) := by
  obtain ⟨request, text, hrequest, hrender, rfl, hsend⟩ := send_of_posted hposted
  rw [hsend]
  refine ⟨rfl, request, text, hrequest, hrender, ?_, ?_, ?_⟩
  · exact requests_modifyRequest_self bridge hrequest _
  · exact Datagram.read_ofMessage _ _
  · rw [Text.beforeNul_eq_iff, Dialect.nul_mem_render_iff hrender]

/-- A raw text without NUL arrives whole. -/
theorem send_carries_ping :
    let bridge := (Bridge.new .tcs {} {}).run [.create (.raw "PING") (.single {})]
    ∃ bytes message time, (bridge.send 0).1.link.sent = [bytes] ∧
      Datagram.read bytes = .ok (message, time) ∧ message.text = "PING" := by
  intro bridge
  have hposted : bridge.posted? 0 = some (bridge.datagram
      { sequence := 1, command := .raw "PING", estimate := ⟨10000000000⟩,
        session := some (.single {}) } "PING") := by
    decide +kernel
  obtain ⟨hlink, request, text, hrequest, hrender, -, hread, hwhole⟩ := send_carries hposted
  obtain rfl := Option.some.inj hrequest
  have htext : "PING" = text := Option.some.inj (Except.ok.inj hrender)
  refine ⟨_, _, _, ?_, hread, ?_⟩
  · rw [hlink]
    rfl
  · exact (hwhole.mpr (by decide)).trans htext.symm

/-- A raw text with a NUL loses what stands behind it, although all of it is recorded as sent. -/
theorem send_loses_text_behind_nul :
    let bridge := (Bridge.new .tcs {} {}).run
      [.create (.raw "PING\x00X") (.single {}), .send 0]
    bridge.requests.map (·.wireText) = [some "PING\x00X"] ∧
      bridge.link.sent.map (fun bytes => (Datagram.message bytes).toOption.map (·.text)) =
        [some "PING"] := by
  decide +kernel

end Bridge

end TelescopeLink
