import DicePool.Network

/-!
# Proofs/Network/Sending — what becomes of a request

A request whose address is none is not sent at all. One that has an address is sent to it, as it is
written in full, and takes the next answer (`Network.send_of_addressOf`); the address is what its text
spells, if that says where it leads (`Network.addressOf_of_parse`).
-/

namespace DicePool.Network

variable {r : WebRequest}

/-! ## Addresses -/

theorem addressOf_of_error {e : UrlError} (h : Url.parse r.url = .error e) :
    addressOf r = .error (.url e) := by
  rw [addressOf, h]
  rfl

/-- An address that says where it leads is the one that a request is sent to, if its host is a name and
who asks can be told. -/
theorem addressOf_of_parse {u : Url} (h : Url.parse r.url = .ok u) (habsolute : u.isAbsolute)
    (hascii : (r.authorization.getD "").toList.all (· ≤ '\x7f')) :
    addressOf r = (u.checkHost.mapError .domain).map fun _ => u := by
  have hurl : (Url.parse r.url).mapError DeliveryError.url = .ok u := by
    rw [h]
    rfl
  rw [addressOf, hurl]
  simp only [bind, Except.bind, habsolute, hascii, if_true, pure, Except.pure]
  cases u.checkHost <;> rfl

theorem addressOf_of_not_ascii {u : Url} (h : Url.parse r.url = .ok u) (habsolute : u.isAbsolute)
    (hascii : ¬(r.authorization.getD "").toList.all (· ≤ '\x7f')) :
    addressOf r = .error .authorization := by
  have hurl : (Url.parse r.url).mapError DeliveryError.url = .ok u := by
    rw [h]
    rfl
  rw [addressOf, hurl]
  simp only [bind, Except.bind, habsolute, hascii, if_true, pure, Except.pure]
  rfl

/-! ## Answers -/

/-- A request with an address is sent, and takes the next answer. -/
theorem send_of_addressOf {u : Url} (h : addressOf r = .ok u) (n : Network) :
    n.send r = (outcomeOf u n.take.1, {
      answers := n.answers.tail
      sent := n.sent.push
        { r with url := u.render, authorization := u.authorization? <|> r.authorization } }) := by
  rw [send, h, take]
  cases n.answers <;> rfl

/-- **A request that is answered was sent**, to the address as it is written in full. -/
theorem exists_sent {n : Network} {response : Response} (h : (n.send r).1 = .ok response) :
    ∃ url authorization, (n.send r).2
      = { answers := n.answers.tail, sent := n.sent.push { r with url, authorization } } := by
  cases haddress : addressOf r with
  | error e =>
    rw [send, haddress] at h
    cases h
  | ok url => exact ⟨url.render, _, congrArg Prod.snd (send_of_addressOf haddress n)⟩

/-- Whether a request is answered by a success. -/
def Accepts (n : Network) (r : WebRequest) : Prop :=
  ∃ response, (n.send r).1 = .ok response ∧ isSuccessStatus response.status

/-- **Whether a request is accepted depends on its address** and on who asks, and not on its text. -/
theorem Accepts.congr {n : Network} {r r' : WebRequest} (h : n.Accepts r) (hurl : r'.url = r.url)
    (hauthorization : r'.authorization = r.authorization) : n.Accepts r' := by
  have haddress : addressOf r' = addressOf r := by
    unfold addressOf
    rw [hurl, hauthorization]
  unfold Accepts send at h ⊢
  rw [haddress]
  cases haddr : addressOf r with
  | error e => rwa [haddr] at h
  | ok url => rwa [haddr] at h

end DicePool.Network
