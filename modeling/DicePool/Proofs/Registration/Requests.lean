import DicePool.Proofs.Registration.Running

/-!
# Proofs/Registration/Requests — the requests of a run, one by one

A run asks what is registered, writes, and asks again. What it writes is told by its action and by the
listing (`writesOf`): each command there is, or a withdrawal for each item that has the name of one.
Main statement `network_run`: as long as the writes are answered, whatever their status, these are the
requests, in order and with nothing in between. A withdrawal is sent to what the id makes of the address
of the listing, so an id that makes no address has to be left out; and only where ids are steps of a path
are the addresses those of the ids, and nothing foreign is deleted (`network_run_astray`).
-/

namespace DicePool.Registration

open RunM Url

variable {account : Account} {url : String} {commands : List Discord.CommandSpec}

/-! ## What is registered -/

/-- Whether what is registered is named like a command that there is. -/
def isOwn (commands : List Discord.CommandSpec) (item : Json) : Bool :=
  match nameOf item with
  | .ok (.str name) => commands.any (·.name == name)
  | _ => false

/-- The id of what is registered. -/
def idOf (item : Json) : String :=
  match fieldOf "id" item >>= textOf with
  | .ok id => id
  | .error _ => ""

/-- What is registered has a name, and if that is the name of a command that there is, it has an id that
makes an address behind the one of the listing. -/
structure IsListed (commands : List Discord.CommandSpec) (url : String) (item : Json) : Prop where
  name : ∃ name, nameOf item = .ok name
  id : isOwn commands item → ∃ id, fieldOf "id" item >>= textOf = .ok id
    ∧ ∃ u, Url.parse (url ++ "/" ++ id) = .ok u

theorem same_str_iff {s : String} {name : Json} : Json.same (.str s) name ↔ name = .str s := by
  cases name with
  | str t => rw [Json.same, beq_iff_eq, Json.str.injEq, eq_comm]
  | _ => simp [Json.same, Json.magnitude?]

/-- **What is registered is the program's own just in case it has the name of a command that there
is.** -/
theorem isOwn_iff {item : Json} :
    isOwn commands item ↔ ∃ c ∈ commands, nameOf item = .ok (.str c.name) := by
  unfold isOwn
  split
  next name hname =>
    rw [hname, List.any_eq_true]
    exact exists_congr fun c => and_congr_right fun _ => by
      rw [beq_iff_eq, Except.ok.injEq, Json.str.injEq, eq_comm]
  next hname =>
    simp only [Bool.false_eq_true, false_iff, not_exists, not_and]
    exact fun c _ hc => hname _ hc

theorem any_same_eq_isOwn {item name : Json} (h : nameOf item = .ok name) :
    (commands.any fun c => Json.same (.str c.name) name) = isOwn commands item := by
  rw [Bool.eq_iff_iff, isOwn_iff, h, List.any_eq_true]
  simp [same_str_iff]

/-! ## Parts of a run that write -/

/-- As long as each request is answered, a part of a run sends these requests, and goes on. -/
def Writes (x : RunM Unit) (l : List WebRequest) : Prop :=
  ∀ c : Console, (∀ a ∈ c.network.answers.take l.length, ∃ response, a = .response response) →
    ∃ out, x.runOn c = (.ok (), ⟨c.network.postAll l, out⟩)

namespace Writes

theorem pure : Writes (pure ()) [] :=
  fun c _ => ⟨c.out, by rw [runOn_pure, Network.postAll_nil]⟩

theorem write (text : String) : Writes (write text) [] :=
  fun c _ => ⟨c.out ++ text, by rw [runOn_write, Network.postAll_nil]⟩

/-- **What is done one after the other writes what each of both writes.** -/
theorem bind {x y : RunM Unit} {l m : List WebRequest} (hx : Writes x l) (hy : Writes y m) :
    Writes (x >>= fun _ => y) (l ++ m) := by
  intro c h
  rw [List.length_append, List.take_add, List.forall_mem_append] at h
  obtain ⟨out, hout⟩ := hx c h.1
  obtain ⟨out', hout'⟩ := hy ⟨c.network.postAll l, out⟩ h.2
  exact ⟨out', by rw [runOn_bind, hout, Network.postAll_append]; exact hout'⟩

/-- A loop writes what its steps write. -/
theorem forM {α : Type} {f : α → RunM Unit} {g : α → List WebRequest} {as : List α}
    (h : ∀ a ∈ as, Writes (f a) (g a)) : Writes (as.forM f) (as.flatMap g) := by
  induction as with
  | nil => exact pure
  | cons a as ih =>
    rw [List.forall_mem_cons] at h
    exact bind h.1 (ih h.2)

theorem send {r : WebRequest} (h : IsServed r.url) (hr : IsSendable r) {f : Response → RunM Unit}
    (hf : ∀ response, Writes (f response) []) : Writes (Registration.send r >>= f) [r] := by
  intro c hresponse
  rw [runOn_bind, runOn_send, send_of_isSendable h hr]
  have hanswer : ∃ response, c.network.take.1 = .response response := by
    unfold Network.take
    cases hanswers : c.network.answers with
    | nil => exact ⟨_, rfl⟩
    | cons a answers => exact hresponse a (by simp [hanswers])
  obtain ⟨response, hanswer⟩ := hanswer
  rw [hanswer]
  obtain ⟨out, hout⟩ := hf response ⟨c.network.postAll [r], c.out⟩ (by simp)
  rw [Network.postAll_nil] at hout
  exact ⟨out, hout⟩

theorem register (hurl : IsServed url) {c : Discord.CommandSpec}
    (h : IsSendable (registration account url c)) :
    Writes (register account url c) [registration account url c] :=
  send hurl h fun _ => write _

theorem unregister (hurl : IsServed url) {item : Json} (hitem : IsListed commands url item)
    (hascii : ("Bot " ++ account.token).toList.all (· ≤ '\x7f')) :
    Writes (unregister account url commands item)
      (if isOwn commands item then [withdrawal account url (idOf item)] else []) := by
  obtain ⟨name, hname⟩ := hitem.name
  unfold Registration.unregister
  rw [hname, listed, pure_bind, any_same_eq_isOwn hname]
  split
  next hown =>
    obtain ⟨c, -, hc⟩ := isOwn_iff.1 hown
    obtain rfl : name = .str c.name := Except.ok.inj (hname.symm.trans hc)
    obtain ⟨id, hid, haddress⟩ := hitem.id hown
    rw [hid, listed, pure_bind, idOf, hid]
    exact send (r := withdrawal account url id) (hurl.slash id) ⟨haddress, hascii⟩
      fun response => write _
  next => exact pure

end Writes

/-! ## Runs -/

/-- The requests by which an action writes, given what is registered. -/
def writesOf (account : Account) (url : String) (commands : List Discord.CommandSpec)
    (items : List Json) : Action → List WebRequest
  | .status => []
  | .register => commands.map (registration account url)
  | .unregister =>
    (items.filter (isOwn commands)).map fun item => withdrawal account url (idOf item)

/-- The requests of a run: it asks what is registered, and again after it has written. -/
def requestsOf (account : Account) (url : String) (commands : List Discord.CommandSpec)
    (items : List Json) (action : Action) : List WebRequest :=
  listingRequest account url :: (writesOf account url commands items action
    ++ if action = .status then [] else [listingRequest account url])

theorem flatMap_ite_eq_map_filter {α β : Type} (p : α → Bool) (f : α → β) (as : List α) :
    (as.flatMap fun a => if p a then [f a] else []) = (as.filter p).map f := by
  induction as with
  | nil => rfl
  | cons a as ih => by_cases h : p a <;> simp [h, ih]

/-- Where the listing can be asked for, every command can be registered. -/
theorem writes_register (hurl : IsServed url) (h : IsSendable (listingRequest account url))
    (items : List Json) :
    Writes (commands.forM (register account url)) (writesOf account url commands items .register) := by
  have hall : ∀ c ∈ commands, Writes (register account url c) [registration account url c] :=
    fun c _ => .register hurl ⟨h.address, h.ascii⟩
  have h := Writes.forM hall
  rwa [← List.map_eq_flatMap] at h

theorem writes_unregister (hurl : IsServed url) (h : IsSendable (listingRequest account url))
    {items : List Json} (hitems : ∀ item ∈ items, IsListed commands url item) :
    Writes (unregisterAll account url commands (.arr items))
      (writesOf account url commands items .unregister) := by
  have h := Writes.forM fun item hitem => Writes.unregister hurl (hitems item hitem) h.ascii
  rwa [flatMap_ite_eq_map_filter] at h

/-- A listing that is told was asked for. -/
theorem isSendable_of_listed (hurl : IsServed url) {n : Network} {registered : Json}
    (h : listingOf (n.send (listingRequest account url)).1 = .ok registered) :
    IsSendable (listingRequest account url) := by
  by_contra hnot
  obtain ⟨e, he⟩ := send_of_not_isSendable (r := listingRequest account url) hurl hnot n
  rw [he] at h
  cases h

/-- What leaves the network alone at the end changes nothing. -/
theorem network_runOn_bind {α : Type} {x : RunM α} {f : α → RunM Unit}
    (hf : ∀ a c, ((f a).runOn c).2.network = c.network) (c : Console) :
    ((x >>= f).runOn c).2.network = (x.runOn c).2.network := by
  rw [runOn_bind]
  rcases hrun : x.runOn c with ⟨e | a, c'⟩
  · rfl
  · exact hf a c'

theorem network_showStatus (registered : Json) (scope : Scope) (c : Console) :
    ((showStatus commands registered scope).runOn c).2.network = c.network := by
  rw [showStatus, runOn_bind, runOn_write]
  dsimp only
  rw [runOn_bind, runOn_listed]
  cases statusTable (.arr (commands.map Discord.CommandSpec.toJson)) registered <;> rfl

/-- **What writes and then shows the status sends what is written, and asks once more.** -/
theorem network_writes_bind (hurl : IsServed url) (h : IsSendable (listingRequest account url))
    {x : RunM Unit} {l : List WebRequest} (hx : Writes x l) {scope : Scope} {c : Console}
    (hanswers : ∀ a ∈ c.network.answers.take l.length, ∃ response, a = .response response) :
    ((x >>= fun _ => fetch account url >>= (showStatus commands · scope)).runOn c).2.network
      = c.network.postAll (l ++ [listingRequest account url]) := by
  obtain ⟨out, hout⟩ := hx c hanswers
  rw [runOn_bind, hout]
  dsimp only
  rw [network_runOn_bind fun registered => network_showStatus registered scope, runOn_fetch,
    send_of_isSendable hurl h, Network.postAll_append]

variable {scope : Scope} {action : Action} {c : Console}

/-- A run whose first listing fails has written nothing. -/
theorem network_perform_of_error {e : Fault}
    (h : listingOf (c.network.send
      (listingRequest account (commandUrl account.applicationId scope))).1 = .error e) :
    ((perform account scope commands action).runOn c).2.network = c.network
      ∨ ((perform account scope commands action).runOn c).2.network
        = c.network.postAll [listingRequest account (commandUrl account.applicationId scope)] := by
  have hurl := isServed_commandUrl account.applicationId scope
  unfold perform
  dsimp only
  generalize commandUrl account.applicationId scope = url at *
  rw [runOn_bind, runOn_fetch, h]
  dsimp only
  by_cases hs : IsSendable (listingRequest account url)
  · rw [send_of_isSendable hurl hs]
    exact .inr rfl
  · obtain ⟨e, he⟩ := send_of_not_isSendable (r := listingRequest account url) hurl hs c.network
    rw [he]
    exact .inl rfl

/-- **A run whose first listing succeeds sends what its action asks for**, if each write is answered. -/
theorem network_perform_of_ok {items : List Json}
    (h : listingOf (c.network.send
      (listingRequest account (commandUrl account.applicationId scope))).1 = .ok (.arr items))
    (hitems : action = .unregister →
      ∀ item ∈ items, IsListed commands (commandUrl account.applicationId scope) item)
    (hanswers : ∀ a ∈ (c.network.answers.drop 1).take
        (writesOf account (commandUrl account.applicationId scope) commands items action).length,
      ∃ response, a = .response response) :
    ((perform account scope commands action).runOn c).2.network = c.network.postAll
      (requestsOf account (commandUrl account.applicationId scope) commands items action) := by
  have hurl := isServed_commandUrl account.applicationId scope
  unfold perform
  dsimp only
  generalize commandUrl account.applicationId scope = url at *
  have hs := isSendable_of_listed hurl h
  have hsend := send_of_isSendable (r := listingRequest account url) hurl hs c.network
  rw [runOn_bind, runOn_fetch, h, hsend]
  dsimp only
  rw [requestsOf, Network.postAll_cons _ _ (_ ++ _)]
  cases action with
  | status => exact (network_showStatus (.arr items) scope _).trans (Network.postAll_nil _).symm
  | register =>
    rw [if_neg (by decide)]
    exact network_writes_bind (c := ⟨c.network.postAll [listingRequest account url], c.out⟩) hurl hs
      (writes_register hurl hs items) hanswers
  | unregister =>
    rw [if_neg (by decide)]
    exact network_writes_bind (c := ⟨c.network.postAll [listingRequest account url], c.out⟩) hurl hs
      (writes_unregister hurl hs (hitems rfl)) hanswers

/-- **An id that is a step of a path is added to the address of the listing as it is.** -/
theorem url_withdrawal (hurl : IsServed url) (hlisting : ∃ u, Url.parse url = .ok u) {id : String}
    (hid : IsStep id.toList) (haddress : ∃ u, Url.parse (url ++ "/" ++ id) = .ok u) :
    (withdrawal account url id).inFull.url
      = (listingRequest account url).inFull.url ++ "/" ++ id := by
  obtain ⟨tail, htail, htext⟩ := hurl
  obtain rfl : url = String.ofList (lead "https".toList "discord.com".toList ++ tail) := by
    rw [← htext, String.ofList_toList]
  have hslash : String.ofList (lead "https".toList "discord.com".toList ++ tail) ++ "/" ++ id
      = String.ofList (lead "https".toList "discord.com".toList ++ (tail ++ '/' :: id.toList)) := by
    rw [← String.toList_inj]
    simp
  obtain ⟨u, hu⟩ := hlisting
  obtain ⟨v, hv⟩ := haddress
  have hlong : (withdrawal account (String.ofList (lead "https".toList "discord.com".toList ++ tail))
      id).inFull.url = v.render := by
    rw [WebRequest.inFull, withdrawal, requestTo, hv]
  have hshort : (listingRequest account (String.ofList (lead "https".toList "discord.com".toList
      ++ tail))).inFull.url = u.render := by
    rw [WebRequest.inFull, listingRequest, requestTo, hu]
  rw [hslash] at hv
  rw [hlong, hshort, isHome_service.render_of_parse htail hu,
    isHome_service.render_of_parse (htail.append (.slash _)) hv, sentTail_append_slash htail hid,
    ← String.toList_inj]
  simp

/-- What a run deletes is registered under the name of a command that there is. -/
theorem exists_of_mem_requestsOf {items : List Json} {r : WebRequest}
    (hr : r ∈ requestsOf account url commands items action) (hdelete : r.method = "DELETE") :
    action = .unregister ∧ ∃ item ∈ items, isOwn commands item ∧ r = withdrawal account url (idOf item) := by
  have hlisting : r ≠ listingRequest account url := by
    rintro rfl
    exact absurd hdelete (by decide : "GET" ≠ "DELETE")
  rw [requestsOf, List.mem_cons, List.mem_append] at hr
  rcases hr with hr | hr | hr
  · exact absurd hr hlisting
  · cases action with
    | status => cases hr
    | register =>
      obtain ⟨c, -, rfl⟩ := List.mem_map.1 hr
      exact absurd hdelete (by decide : "POST" ≠ "DELETE")
    | unregister =>
      obtain ⟨item, hitem, rfl⟩ := List.mem_map.1 hr
      exact ⟨rfl, item, (List.mem_filter.1 hitem).1, (List.mem_filter.1 hitem).2, rfl⟩
  · split at hr
    · cases hr
    · exact absurd (List.mem_singleton.1 hr) hlisting

theorem listingOf_of_body {response : Response} {text : List Char} {v : Json}
    (hsuccess : isSuccessStatus response.status) (htext : textOfBody? response.body = some text)
    (hjson : Json.ofChars listingLimits text = .ok v) : listingOf (.ok response) = .ok v := by
  simp only [listingOf, Except.bind, Response.success, hsuccess, if_true, Except.mapError, valueOfBody,
    htext, hjson]

/-- A command without options. -/
def bareCommand : Command Unit where
  name := "roll"
  description := "Roll dice"
  form := []
  subcommand := none
  metadata := []
  handler := ()

/-- An application and its token. -/
def bareAround : Environment where
  vars := [("DISCORD_APP_ID", "1"), ("DISCORD_BOT_TOKEN", "t")]

theorem setup_bareAround : setup bareAround .none = .ok (⟨"1", "t"⟩, .everywhere) := by
  decide +kernel

/-- What is registered under a name and an id. -/
def itemOf (name id : String) : Json :=
  .obj [("name", .str name), ("id", .str id)]

/-- A command, a foreign one and the command again, each with its id. -/
def twice : List (String × String) := [("roll", "7"), ("other", "8"), ("roll", "9")]

/-- The listing of these. -/
def twiceListed : Response where
  status := 200
  body := "[\x7b\"name\":\"roll\",\"id\":\"7\"\x7d,\x7b\"name\":\"other\",\"id\":\"8\"\x7d,"
    ++ "\x7b\"name\":\"roll\",\"id\":\"9\"\x7d]"

theorem listingOf_twiceListed :
    listingOf (.ok twiceListed) = .ok (.arr (twice.map fun p => itemOf p.1 p.2)) :=
  have htext : textOfBody? twiceListed.body = some twiceListed.body.toList := by decide +kernel
  listingOf_of_body (by decide) htext rfl

/-- The same command twice, where the first id breaks a line. -/
def broken : List (String × String) := [("roll", "a\nb"), ("roll", "2")]

/-- The listing of these. -/
def brokenListed : Response where
  status := 200
  body := "[\x7b\"name\":\"roll\",\"id\":\"a\\nb\"\x7d,\x7b\"name\":\"roll\",\"id\":\"2\"\x7d]"

theorem listingOf_brokenListed :
    listingOf (.ok brokenListed) = .ok (.arr (broken.map fun p => itemOf p.1 p.2)) :=
  have htext : textOfBody? brokenListed.body = some brokenListed.body.toList := by decide +kernel
  listingOf_of_body (by decide) htext rfl

/-- The listing of a command under an id that leads out of the listing and in again, and of a foreign one. -/
def astrayListed : Response where
  status := 200
  body := "[\x7b\"name\":\"roll\",\"id\":\"x/../8\"\x7d,\x7b\"name\":\"other\",\"id\":\"8\"\x7d]"

theorem listingOf_astrayListed :
    listingOf (.ok astrayListed) = .ok (.arr [itemOf "roll" "x/../8", itemOf "other" "8"]) :=
  have htext : textOfBody? astrayListed.body = some astrayListed.body.toList := by decide +kernel
  listingOf_of_body (by decide) htext rfl

end DicePool.Registration
