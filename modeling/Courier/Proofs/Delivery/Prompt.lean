import Courier.Proofs.Delivery.Requests

/-!
# Networks that keep nobody waiting

Only a reply that is held back keeps a client waiting. If the gate is open, or no reply of the
script waits for it, every request is answered or fails at once, and so does every delivery.

Results:

* `exchange_ne_waiting`: no exchange is kept waiting.
* `exists_deliver_finished`: every delivery comes to an end.
-/

namespace Courier.Http

variable {net after : Network} {uri : Uri} {request : Request} {redirects : Nat}
  {timeouts : Timeouts} {url body : List Char} {token : Option (List Char)}

/-- No reply is held back: the gate is open, or none of them waits for it. -/
def Network.IsPrompt (net : Network) : Prop :=
  net.gateOpen = true ∨ ∀ reply ∈ net.replies, reply.held = false

/-- The next reply is one of the script, or the one that means success. -/
theorem Network.nextReply_held (h : ∀ reply ∈ net.replies, reply.held = false) :
    net.nextReply.held = false := by
  unfold Network.nextReply
  split
  · next hr => exact h _ (List.mem_of_getElem? hr)
  · cases hl : net.replies.getLast? with
    | none => rfl
    | some reply => exact h _ (List.mem_of_getLast? hl)

theorem Network.IsPrompt.not_held (h : net.IsPrompt) :
    (net.nextReply.held && !net.gateOpen) = false := by
  rcases h with hg | hr
  · simp [hg]
  · simp [nextReply_held hr]

theorem answer_ne_waiting (h : net.IsPrompt) : net.answer ≠ .waiting := by
  unfold Network.answer
  rw [h.not_held]
  cases Response.read net.nextReply.bytes with
  | ok response => exact nofun
  | error fault => cases fault <;> exact nofun

/-- A request to such a network is not kept waiting, nor is the next one. -/
theorem ask_of_isPrompt (h : net.IsPrompt) (uri : Uri) (request : Request) :
    (ask net uri request).1 ≠ .waiting ∧ (ask net uri request).2.IsPrompt := by
  rcases ask_cases net uri request with ⟨cause, hf⟩ | hf
  · rw [hf]
    exact ⟨nofun, h⟩
  · rw [hf]
    exact ⟨answer_ne_waiting h, h⟩

theorem onward_ne_waiting {method : String} {response : Response} :
    onward uri method response redirects ≠ .error .waiting := by
  unfold onward
  split
  · exact nofun
  · split
    · exact nofun
    · split
      · exact nofun
      · exact nofun
      · split <;> exact nofun

theorem exchange_ne_waiting (h : net.IsPrompt) :
    (exchange net uri request redirects).1 ≠ .waiting := by
  induction redirects using Nat.strong_induction_on generalizing net uri request with
  | _ redirects ih =>
  obtain ⟨hw, hp⟩ := ask_of_isPrompt h uri request
  cases ha : ask net uri request with
  | mk result after =>
    rw [ha] at hw hp
    by_cases hr : ∃ response, result = .replied response
    · obtain ⟨response, rfl⟩ := hr
      rw [exchange_of_replied ha]
      cases ho : onward uri request.method response redirects with
      | error ending =>
        show ending ≠ .waiting
        rintro rfl
        exact onward_ne_waiting ho
      | ok onto =>
        obtain ⟨next, fewer⟩ := onto
        obtain rfl := eq_of_onward ho
        exact ih fewer (Nat.lt_succ_self _) hp
    · rw [exchange_of_unreplied ha fun response he => hr ⟨response, he⟩]
      exact hw

/-- **A delivery comes to an end**, if its timeouts can be counted to and no reply is held back. -/
theorem exists_deliver_finished (ho : timeouts.overflow net.clock = false) (h : net.IsPrompt)
    (url : List Char) (token : Option (List Char)) (body : List Char) :
    ∃ result after, deliver net timeouts url token body = (.finished result, after) := by
  cases hs : refusal? url token with
  | error cause => exact ⟨_, _, by rw [deliver_of_refused hs]⟩
  | ok uri =>
    by_cases hz : timeouts.total.nanoseconds = 0
    · exact ⟨_, _, deliver_of_no_time hs ho hz⟩
    · cases hx : exchange net uri (post uri token body) maxRedirects with
      | mk result after =>
        rw [deliver_of_exchange hs ho hz hx]
        have hw : (exchange net uri (post uri token body) maxRedirects).1 ≠ .waiting :=
          exchange_ne_waiting h
        rw [hx] at hw
        cases result with
        | waiting => exact absurd rfl hw
        | failed cause => exact ⟨_, _, rfl⟩
        | replied last =>
          by_cases hok : last.status = 200
          · exact ⟨.ok (), after, by simp only [Exchange.attempt, if_pos hok]⟩
          · exact ⟨.error _, after, by simp only [Exchange.attempt, if_neg hok]; rfl⟩

end Courier.Http
