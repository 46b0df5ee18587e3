import DicePool.Proofs.Network.Sending
import DicePool.Proofs.Network.Spelling
import DicePool.Registration.Run

/-!
# Proofs/Registration/Running — what a run of the registration sends

All requests of a run go to one place, the service, so whether one of them is sent depends on its text
alone, and on who asks (`send_of_isSendable`). Of a part of a run, `Sends` says which requests it may
send, whatever happens; that is put together along the run, and a loop inherits it from its step.
-/

namespace DicePool

/-! ## Requests as they are sent -/

namespace WebRequest

/-- The request with its address written in full. -/
def inFull (r : WebRequest) : WebRequest :=
  { r with url := match Url.parse r.url with
    | .ok u => u.render
    | .error _ => r.url }

end WebRequest

namespace Network

/-- Requests that are all sent, each of them taking an answer. -/
def postAll (n : Network) (l : List WebRequest) : Network where
  answers := n.answers.drop l.length
  sent := n.sent ++ (l.map WebRequest.inFull).toArray

@[simp] theorem postAll_nil (n : Network) : n.postAll [] = n := by
  simp [postAll]

theorem postAll_append (n : Network) (l m : List WebRequest) :
    n.postAll (l ++ m) = (n.postAll l).postAll m := by
  simp [postAll, List.drop_drop]

theorem postAll_cons (n : Network) (r : WebRequest) (l : List WebRequest) :
    n.postAll (r :: l) = (n.postAll [r]).postAll l :=
  n.postAll_append [r] l

@[simp] theorem toList_sent_postAll (n : Network) (l : List WebRequest) :
    (n.postAll l).sent.toList = n.sent.toList ++ l.map WebRequest.inFull := by
  simp [postAll]

end Network

namespace Registration

open Url

variable {α β : Type}

/-! ## The service -/

/-- The place of the service. -/
def service : Url where
  scheme := "https".toList
  host := "discord.com".toList

theorem isHome_service : IsHome "https".toList "discord.com".toList service where
  place := ⟨List.all_eq_true.1 (by decide), by decide, List.all_iff_forall_prop.1 (by decide)⟩
  parse := by decide +kernel
  placed := rfl
  bare := ⟨rfl, rfl, rfl⟩

/-- An address of the service: its text begins with the place, and a path follows. -/
def IsServed (text : String) : Prop :=
  ∃ tail, EndsPlace tail ∧ text.toList = lead "https".toList "discord.com".toList ++ tail

theorem IsServed.append {text : String} (h : IsServed text) {rest : String}
    (hrest : EndsPlace rest.toList) : IsServed (text ++ rest) := by
  obtain ⟨tail, htail, htext⟩ := h
  exact ⟨tail ++ rest.toList, htail.append hrest, by
    rw [String.toList_append, htext, List.append_assoc]⟩

/-- What stands behind a slash is served where what stands before it is. -/
theorem IsServed.slash {text : String} (h : IsServed text) (id : String) :
    IsServed (text ++ "/" ++ id) := by
  rw [String.append_assoc]
  refine h.append ?_
  rw [String.toList_append]
  exact .slash id.toList

/-- Where an application is, behind the place of the service. -/
def applicationPath (applicationId : String) : List Char :=
  "/api/v10".toList ++ "/applications/".toList ++ applicationId.toList

/-- Where the commands of a scope are, behind an application. -/
def Scope.path : Scope → List Char
  | .everywhere => "/commands".toList
  | .guild id => "/guilds/".toList ++ id.toList ++ "/commands".toList

theorem toList_apiBase :
    apiBase.toList = lead "https".toList "discord.com".toList ++ "/api/v10".toList := by
  decide

theorem toList_commandUrl (applicationId : String) (scope : Scope) :
    (commandUrl applicationId scope).toList
      = lead "https".toList "discord.com".toList ++ (applicationPath applicationId ++ scope.path) := by
  cases scope with
  | everywhere =>
    unfold commandUrl applicationPath Scope.path
    simp only [String.toList_append]
    rw [toList_apiBase]
    simp only [List.append_assoc]
  | guild id =>
    unfold commandUrl applicationPath Scope.path
    simp only [String.toList_append]
    rw [toList_apiBase]
    simp only [List.append_assoc]

theorem endsPlace_applicationPath (applicationId : String) (path : List Char) :
    EndsPlace (applicationPath applicationId ++ path) :=
  .slash _

theorem isServed_commandUrl (applicationId : String) (scope : Scope) :
    IsServed (commandUrl applicationId scope) :=
  ⟨_, endsPlace_applicationPath applicationId scope.path, toList_commandUrl applicationId scope⟩

/-- What an address of the service is in full leads to the service, by name. -/
theorem IsServed.of_parse {text : String} (h : IsServed text) {u : Url} (hu : Url.parse text = .ok u) :
    u.isAbsolute ∧ u.checkHost = .ok () ∧ u.authorization? = none := by
  obtain ⟨tail, htail, htext⟩ := h
  rw [← String.ofList_toList (s := text), htext] at hu
  obtain ⟨-, rfl⟩ := (isHome_service.parse_append_iff htail).1 hu
  have habsolute : service.isAbsolute := by decide
  have hhost : service.checkHost = .ok () := by decide +kernel
  have hnobody : service.authorization? = none := by decide +kernel
  exact ⟨habsolute, hhost, hnobody⟩

/-- A request whose text is an address, and that can tell who asks. -/
structure IsSendable (r : WebRequest) : Prop where
  address : ∃ u, Url.parse r.url = .ok u
  ascii : (r.authorization.getD "").toList.all (· ≤ '\x7f')

variable {r : WebRequest}

/-- **A request to the service has an address just in case it can be sent**, and it is the one that its
text spells. -/
theorem addressOf_of_isSendable (h : IsServed r.url) (hr : IsSendable r) :
    ∃ u, Url.parse r.url = .ok u ∧ Network.addressOf r = .ok u := by
  obtain ⟨u, hu⟩ := hr.address
  obtain ⟨habsolute, hhost, -⟩ := h.of_parse hu
  refine ⟨u, hu, ?_⟩
  rw [Network.addressOf_of_parse hu habsolute hr.ascii, hhost]
  rfl

theorem isSendable_of_addressOf (h : IsServed r.url) {u : Url} (hr : Network.addressOf r = .ok u) :
    IsSendable r := by
  cases hu : Url.parse r.url with
  | error e =>
    rw [Network.addressOf_of_error hu] at hr
    cases hr
  | ok v =>
    refine ⟨⟨v, hu⟩, ?_⟩
    by_contra hascii
    rw [Network.addressOf_of_not_ascii hu (h.of_parse hu).1 hascii] at hr
    cases hr

/-- What an answer is to the one who asked. -/
def answered : Answer → Except DeliveryError Response
  | .response response => .ok response
  | .outage kind message => .error (.outage kind message)

/-- **A request to the service that can be sent is sent in full**, and is answered by the next answer. -/
theorem send_of_isSendable (h : IsServed r.url) (hr : IsSendable r) (n : Network) :
    n.send r = (answered n.take.1, n.postAll [r]) := by
  obtain ⟨u, hu, haddress⟩ := addressOf_of_isSendable h hr
  obtain ⟨habsolute, -, hnobody⟩ := h.of_parse hu
  have hfull : r.inFull = { r with url := u.render } := by rw [WebRequest.inFull, hu]
  rw [Network.send_of_addressOf haddress n, hnobody, Network.postAll]
  simp only [hfull, List.map_cons, List.map_nil, List.length_singleton, List.drop_one]
  refine Prod.ext ?_ ?_
  · cases n.take.1 with
    | response response => exact if_pos habsolute
    | outage kind message => rfl
  · simp

/-- A request to the service that cannot be sent is not. -/
theorem send_of_not_isSendable (h : IsServed r.url) (hr : ¬IsSendable r) (n : Network) :
    ∃ e, n.send r = (.error e, n) := by
  cases haddress : Network.addressOf r with
  | error e => exact ⟨e, by rw [Network.send, haddress]⟩
  | ok u => exact absurd (isSendable_of_addressOf h haddress) hr

/-! ## Parts of a run -/

/-- How a part of a run ends, and what it leaves. -/
def RunM.runOn (x : RunM α) (c : Console) : Except Fault α × Console := x.run.run c

open RunM

@[simp] theorem runOn_pure (a : α) (c : Console) : (pure a : RunM α).runOn c = (.ok a, c) := rfl

@[simp] theorem runOn_throw (e : Fault) (c : Console) :
    (throw e : RunM α).runOn c = (.error e, c) := rfl

@[simp] theorem runOn_write (text : String) (c : Console) :
    (write text).runOn c = (.ok (), { c with out := c.out ++ text }) := rfl

/-- What follows a fault is not run. -/
theorem runOn_bind (x : RunM α) (f : α → RunM β) (c : Console) :
    (x >>= f).runOn c = match x.runOn c with
      | (.ok a, c') => (f a).runOn c'
      | (.error e, c') => (.error e, c') := by
  change ((x.run >>= ExceptT.bindCont f) : StateM Console _).run c = _
  rw [StateT.run_bind]
  rcases h : x.runOn c with ⟨_ | a, c'⟩ <;>
    · rw [show x.run.run c = _ from h]
      rfl

theorem runOn_send (r : WebRequest) (c : Console) :
    (send r).runOn c
      = ((c.network.send r).1.mapError .delivery, { c with network := (c.network.send r).2 }) := by
  have hsend : (modifyGet fun c : Console => ((c.network.send r).1, { c with network := (c.network.send r).2 })
      : RunM _).runOn c = (.ok (c.network.send r).1, { c with network := (c.network.send r).2 }) := rfl
  change (modifyGet _ >>= fun outcome => _ : RunM Response).runOn c = _
  rw [runOn_bind, hsend]
  cases (c.network.send r).1 <;> rfl

/-- What a part of a listing is for a run. -/
theorem runOn_listed (a : Except ListingError α) (c : Console) :
    (listed a).runOn c = (a.mapError .listing, c) := by
  cases a <;> rfl

/-- What an answer to the question for a listing says. -/
def listingOf (outcome : Except DeliveryError Response) : Except Fault Json :=
  ((outcome.bind Response.success).mapError .delivery).bind fun response => valueOfBody response.body

/-- The request for a listing. -/
def listingRequest (account : Account) (url : String) : WebRequest :=
  requestTo account "GET" url none

/-- The request that registers a command. -/
def registration (account : Account) (url : String) (c : Discord.CommandSpec) : WebRequest :=
  requestTo account "POST" url (some c.toJson)

/-- The request that withdraws the command of an id. -/
def withdrawal (account : Account) (url id : String) : WebRequest :=
  requestTo account "DELETE" (url ++ "/" ++ id) none

/-- **A listing is asked for once.** -/
theorem runOn_fetch (account : Account) (url : String) (c : Console) :
    (fetch account url).runOn c = (listingOf (c.network.send (listingRequest account url)).1,
      { c with network := (c.network.send (listingRequest account url)).2 }) := by
  unfold fetch
  rw [runOn_bind, runOn_send, ← listingRequest]
  cases (c.network.send (listingRequest account url)).1 with
  | error e => rfl
  | ok response =>
    dsimp only [Except.mapError]
    cases hsuccess : response.success with
    | error e => simp [listingOf, Except.bind, hsuccess, Except.mapError]
    | ok response' =>
      cases hvalue : valueOfBody response'.body <;>
        simp [listingOf, Except.bind, hsuccess, Except.mapError, hvalue]

/-! ## Which requests are sent -/

/-- Whatever happens, a part of a run sends no requests but those of a kind. -/
def Sends (p : WebRequest → Prop) (x : RunM α) : Prop :=
  ∀ c, ∃ l : List WebRequest,
    (x.runOn c).2.network.sent.toList = c.network.sent.toList ++ l ∧ ∀ r ∈ l, p r

namespace Sends

variable {p : WebRequest → Prop}

theorem of_quiet {x : RunM α} (h : ∀ c, (x.runOn c).2.network = c.network) : Sends p x :=
  fun c => ⟨[], by rw [h, List.append_nil], List.forall_mem_nil _⟩

theorem listed (a : Except ListingError α) : Sends p (listed a) :=
  of_quiet fun c => by rw [runOn_listed]

theorem write (text : String) : Sends p (write text) :=
  of_quiet fun _ => rfl

/-- **What is done one after the other sends what each of both sends.** -/
theorem bind {x : RunM α} {f : α → RunM β} (hx : Sends p x) (hf : ∀ a, Sends p (f a)) :
    Sends p (x >>= f) := by
  intro c
  obtain ⟨l, hl, hp⟩ := hx c
  rw [runOn_bind]
  rcases hrun : x.runOn c with ⟨e | a, c'⟩ <;> rw [hrun] at hl
  · exact ⟨l, hl, hp⟩
  · obtain ⟨l', hl', hp'⟩ := hf a c'
    exact ⟨l ++ l', by rw [hl', hl, List.append_assoc], List.forall_mem_append.2 ⟨hp, hp'⟩⟩

/-- A loop sends what its step sends. -/
theorem forM {f : α → RunM Unit} (h : ∀ a, Sends p (f a)) (l : List α) : Sends p (l.forM f) := by
  induction l with
  | nil => exact of_quiet fun _ => rfl
  | cons a l ih => exact bind (h a) fun _ => ih

theorem send {r : WebRequest} (h : IsServed r.url) (hr : IsSendable r → p r.inFull) :
    Sends p (send r) := by
  intro c
  rw [runOn_send]
  by_cases hs : IsSendable r
  · rw [send_of_isSendable h hs]
    exact ⟨[r.inFull], by simp, List.forall_mem_singleton.2 (hr hs)⟩
  · obtain ⟨e, he⟩ := send_of_not_isSendable h hs c.network
    rw [he]
    exact ⟨[], (List.append_nil _).symm, List.forall_mem_nil _⟩

theorem fetch {account : Account} {url : String} (h : IsServed url)
    (hr : IsSendable (listingRequest account url) → p (listingRequest account url).inFull) :
    Sends p (fetch account url) := by
  refine bind (send (r := listingRequest account url) h hr) fun response => of_quiet fun c => ?_
  cases response.success with
  | error e => rfl
  | ok response' => cases hvalue : valueOfBody response'.body <;> simp [hvalue]

theorem register {account : Account} {url : String} (h : IsServed url) (c : Discord.CommandSpec)
    (hr : IsSendable (registration account url c) → p (registration account url c).inFull) :
    Sends p (register account url c) :=
  bind (send (r := registration account url c) h hr) fun _ => write _

theorem unregister {account : Account} {url : String} (h : IsServed url)
    (commands : List Discord.CommandSpec)
    (hr : ∀ id, IsSendable (withdrawal account url id) → p (withdrawal account url id).inFull)
    (registered : Json) : Sends p (unregister account url commands registered) := by
  refine bind (listed _) fun name => ?_
  split
  · exact bind (listed _) fun id => bind (send (r := withdrawal account url id) (h.slash id) (hr id))
      fun _ => bind (listed _) fun _ => write _
  · exact of_quiet fun _ => rfl

theorem showStatus (commands : List Discord.CommandSpec) (registered : Json) (scope : Scope) :
    Sends p (showStatus commands registered scope) :=
  bind (write _) fun _ => bind (listed _) fun _ => write _

end Sends

end Registration

end DicePool
