import GelClient.Transport.Target
import Mathlib.Data.List.Forall2

/-!
# The server acceptor

`acceptor.rs`. An `Acceptor` is a listening target, TLS parameters, and whether each accepted
socket is upgraded to TLS before it is handed out (`should_upgrade`). `bind` returns the stream
of accepted connections, whose `poll_next` holds at most one pending TLS upgrade, polls that
first, and otherwise polls the listener. The listener and the handshakes are outside the model:
`Env` gives what the `k`-th poll of each answers, and a socket is named by the listener poll that
accepted it. `Step` lists what one call can do; each invariant is kept by every `Step`, so holds
of every run (`run_invariant`), and `RunSpec` collects them.
-/

namespace GelClient.Server

open GelClient.Net GelClient.Stream

/-! ## The acceptor -/

/-- `Acceptor`. `P` is `TlsServerParameterProvider`, carried into each connection and never
read here. -/
structure Acceptor (P : Type) where
  resolvedTarget : ResolvedTarget
  tlsProvider : Option P
  shouldUpgrade : Bool
  ignoreMissingTlsCloseNotify : Bool

namespace Acceptor

variable {P : Type}

def new (target : ResolvedTarget) : Acceptor P := ⟨target, none, false, false⟩

def newTls (target : ResolvedTarget) (provider : P) : Acceptor P := ⟨target, some provider, true, false⟩

def newStarttls (target : ResolvedTarget) (provider : P) : Acceptor P :=
  ⟨target, some provider, false, false⟩

def newTcp (addr : SocketAddr) : Acceptor P := ⟨.socketAddr addr, none, false, false⟩

def newTcpTls (addr : SocketAddr) (provider : P) : Acceptor P :=
  ⟨.socketAddr addr, some provider, true, false⟩

def newTcpStarttls (addr : SocketAddr) (provider : P) : Acceptor P :=
  ⟨.socketAddr addr, some provider, false, false⟩

def newUnixPath (path : List Byte) : Except IoError (Acceptor P) := do
  let addr ← UnixSocketAddr.fromPathname path
  pure ⟨.unixSocketAddr addr, none, false, false⟩

def newUnixDomain (domain : List Byte) : Except IoError (Acceptor P) := do
  let addr ← UnixSocketAddr.fromAbstractName domain
  pure ⟨.unixSocketAddr addr, none, false, false⟩

end Acceptor

/-! ## Connections and the accepted stream -/

/-- A socket taken from the listener, named by the listener poll that accepted it. -/
structure Socket where
  poll : Nat
  deriving DecidableEq

/-- The server side of `UpgradableStream` over a socket (modelled from the spec: `stream.rs` is
not in this repository): the provider it may upgrade with, whether a missing TLS close-notify is
ignored, and whether `secure_upgrade` has returned `Ok` on it. -/
structure Connection (P : Type) where
  socket : Socket
  tlsProvider : Option P
  ignoreMissingCloseNotify : Bool
  upgraded : Bool

def Connection.newServer {P : Type} (socket : Socket) (tlsProvider : Option P) : Connection P :=
  ⟨socket, tlsProvider, false, false⟩

inductive ConnectionError where
  | io (e : IoError)
  | sslError
  deriving DecidableEq

inductive Poll (α : Type) where
  | ready (a : α)
  | pending
  deriving DecidableEq

abbrev Item (P : Type) := Except ConnectionError (Connection P)

/-- `AcceptedStream`, without the listener (`stream`), whose answers come from `Env`.
`upgrade_future` is the pending upgrade, with the connection it upgrades. -/
structure AcceptedStream (P : Type) where
  shouldUpgrade : Bool
  ignoreMissingTlsCloseNotify : Bool
  tlsProvider : Option P
  upgradeFuture : Option (Connection P)

/-- `Acceptor::bind`: `listen_raw` on the target, and the stream with no pending upgrade.
`bind_explicit` builds the same stream for another TLS driver. -/
def Acceptor.bind {P : Type} (listenRaw : ResolvedTarget → Except IoError Unit) (a : Acceptor P) :
    Except ConnectionError (AcceptedStream P) :=
  match listenRaw a.resolvedTarget with
  | .error e => .error (.io e)
  | .ok () => .ok
    { shouldUpgrade := a.shouldUpgrade
      ignoreMissingTlsCloseNotify := a.ignoreMissingTlsCloseNotify
      tlsProvider := a.tlsProvider
      upgradeFuture := none }

/-! ## `poll_next` -/

inductive ListenerPoll where
  | pending
  | closed
  | error (e : IoError)
  | accepted
  deriving DecidableEq

inductive UpgradePoll where
  | pending
  | ok
  | err
  deriving DecidableEq

/-- The answers of the listener and of the upgrades, poll by poll. -/
structure Env where
  listener : Nat → ListenerPoll
  upgrade : Nat → UpgradePoll

/-- The stream, with the number of polls of the listener and of upgrade futures made so far. -/
structure World (P : Type) where
  stream : AcceptedStream P
  listenerPolls : Nat
  upgradePolls : Nat

variable {P : Type}

def World.acceptedConnection (w : World P) : Connection P :=
  let stream := Connection.newServer ⟨w.listenerPolls⟩ w.stream.tlsProvider
  if w.stream.ignoreMissingTlsCloseNotify then { stream with ignoreMissingCloseNotify := true }
  else stream

@[simp] theorem World.acceptedConnection_socket (w : World P) :
    w.acceptedConnection.socket = ⟨w.listenerPolls⟩ := by
  unfold World.acceptedConnection; split <;> rfl

@[simp] theorem World.acceptedConnection_upgraded (w : World P) :
    w.acceptedConnection.upgraded = false := by
  unfold World.acceptedConnection; split <;> rfl

def pollUpgradeFuture (env : Env) (w : World P) (conn : Connection P) :
    World P × Poll (Option (Item P)) :=
  let w' := { w with upgradePolls := w.upgradePolls + 1 }
  match env.upgrade w.upgradePolls with
  | .ok => (w', .ready (some (.ok { conn with upgraded := true })))
  | .err => (w', .ready (some (.error .sslError)))
  | .pending => ({ w' with stream := { w.stream with upgradeFuture := some conn } }, .pending)

def pollNext (env : Env) (w : World P) : World P × Poll (Option (Item P)) :=
  match w.stream.upgradeFuture with
  | some conn => pollUpgradeFuture env { w with stream := { w.stream with upgradeFuture := none } } conn
  | none =>
    let w' := { w with listenerPolls := w.listenerPolls + 1 }
    match env.listener w.listenerPolls with
    | .pending => (w', .pending)
    | .closed => (w', .ready none)
    | .error e => (w', .ready (some (.error (.io e))))
    | .accepted =>
      if w.stream.shouldUpgrade then pollUpgradeFuture env w' w.acceptedConnection
      else (w', .ready (some (.ok w.acceptedConnection)))

def run (env : Env) : Nat → World P → World P × List (Poll (Option (Item P)))
  | 0, w => (w, [])
  | n + 1, w =>
    let r := run env n w
    let s := pollNext env r.1
    (s.1, r.2 ++ [s.2])

def World.init (s : AcceptedStream P) : World P := ⟨s, 0, 0⟩

/-! ## What one call can do -/

inductive UpgradeStep (env : Env) (conn : Connection P) (w : World P) :
    World P → Poll (Option (Item P)) → Prop
  | ok : env.upgrade w.upgradePolls = .ok →
      UpgradeStep env conn w { w with upgradePolls := w.upgradePolls + 1 }
        (.ready (some (.ok { conn with upgraded := true })))
  | err : env.upgrade w.upgradePolls = .err →
      UpgradeStep env conn w { w with upgradePolls := w.upgradePolls + 1 }
        (.ready (some (.error .sslError)))
  | pending : env.upgrade w.upgradePolls = .pending →
      UpgradeStep env conn w
        { w with stream := { w.stream with upgradeFuture := some conn },
                 upgradePolls := w.upgradePolls + 1 } .pending

/-- What one call of `poll_next` can do. -/
inductive Step (env : Env) (w : World P) : World P → Poll (Option (Item P)) → Prop
  /-- The pending upgrade is polled, and the listener is not. -/
  | resume {conn w' out} : w.stream.upgradeFuture = some conn →
      UpgradeStep env conn { w with stream := { w.stream with upgradeFuture := none } } w' out →
      Step env w w' out
  | listenerPending : w.stream.upgradeFuture = none → env.listener w.listenerPolls = .pending →
      Step env w { w with listenerPolls := w.listenerPolls + 1 } .pending
  | closed : w.stream.upgradeFuture = none → env.listener w.listenerPolls = .closed →
      Step env w { w with listenerPolls := w.listenerPolls + 1 } (.ready none)
  | listenerError {e} : w.stream.upgradeFuture = none → env.listener w.listenerPolls = .error e →
      Step env w { w with listenerPolls := w.listenerPolls + 1 } (.ready (some (.error (.io e))))
  /-- A socket is accepted and yielded at once. -/
  | accept : w.stream.upgradeFuture = none → env.listener w.listenerPolls = .accepted →
      w.stream.shouldUpgrade = false →
      Step env w { w with listenerPolls := w.listenerPolls + 1 } (.ready (some (.ok w.acceptedConnection)))
  /-- A socket is accepted and its upgrade polled. -/
  | acceptUpgrade {w' out} : w.stream.upgradeFuture = none →
      env.listener w.listenerPolls = .accepted → w.stream.shouldUpgrade = true →
      UpgradeStep env w.acceptedConnection { w with listenerPolls := w.listenerPolls + 1 } w' out →
      Step env w w' out

theorem pollUpgradeFuture_step (env : Env) (w : World P) (conn : Connection P) :
    UpgradeStep env conn w (pollUpgradeFuture env w conn).1 (pollUpgradeFuture env w conn).2 := by
  unfold pollUpgradeFuture
  split
  · exact .ok ‹_›
  · exact .err ‹_›
  · exact .pending ‹_›

theorem pollNext_step (env : Env) (w : World P) : Step env w (pollNext env w).1 (pollNext env w).2 := by
  unfold pollNext
  split
  · exact .resume ‹_› (pollUpgradeFuture_step ..)
  · split
    · exact .listenerPending ‹_› ‹_›
    · exact .closed ‹_› ‹_›
    · exact .listenerError ‹_› ‹_›
    · split
      · exact .acceptUpgrade ‹_› ‹_› ‹_› (pollUpgradeFuture_step ..)
      · exact .accept ‹_› ‹_› (Bool.eq_false_iff.2 ‹_›)

/-! ## The listener is not polled during an upgrade -/

theorem Step.of_pending {env : Env} {w w' : World P} {out : Poll (Option (Item P))}
    {conn : Connection P} (h : Step env w w' out) (hw : w.stream.upgradeFuture = some conn) :
    w'.listenerPolls = w.listenerPolls ∧
      (w'.stream.upgradeFuture = none ∨ w'.stream.upgradeFuture = some conn) := by
  cases h with
  | resume hc hu =>
    rw [hw, Option.some.injEq] at hc
    subst hc
    cases hu <;> simp
  | _ => simp_all

theorem Step.shouldUpgrade_eq {env : Env} {w w' : World P} {out : Poll (Option (Item P))}
    (h : Step env w w' out) : w'.stream.shouldUpgrade = w.stream.shouldUpgrade := by
  cases h with
  | resume _ hu => cases hu <;> rfl
  | acceptUpgrade _ _ _ hu => cases hu <;> rfl
  | _ => rfl

/-! ## Items and sockets -/

/-- The items a run yields that stand for a socket: connections and upgrade errors. -/
def socketItems (outs : List (Poll (Option (Item P)))) : List (Item P) :=
  outs.filterMap fun
    | .ready (some (.ok c)) => some (.ok c)
    | .ready (some (.error .sslError)) => some (.error .sslError)
    | _ => none

def okConns (items : List (Item P)) : List (Connection P) := items.filterMap Except.toOption

/-- An item accounts for a socket: it is the connection on it, or an upgrade error, which
`Resolves` ties to the upgrade that answered `Err`. -/
def Accounts : Item P → Socket → Prop
  | .ok c, s => c.socket = s
  | .error .sslError, _ => True
  | .error (.io _), _ => False

/-- An item reports how an upgrade resolved: the connection, upgraded, for `Ok`, and the
upgrade's `SslError` for `Err`. -/
def Resolves : Item P → UpgradePoll → Prop
  | .ok c, .ok => c.upgraded = true
  | .error .sslError, .err => True
  | _, _ => False

@[simp] theorem accounts_ok {c : Connection P} {s : Socket} : Accounts (.ok c) s ↔ c.socket = s :=
  Iff.rfl

def acceptedSockets (env : Env) (n : Nat) : List Socket :=
  ((List.range n).filter fun k => env.listener k = .accepted).map Socket.mk

def upgradeResults (env : Env) (n : Nat) : List UpgradePoll :=
  ((List.range n).map env.upgrade).filter (· != .pending)

theorem socketItems_append (outs outs' : List (Poll (Option (Item P)))) :
    socketItems (outs ++ outs') = socketItems outs ++ socketItems outs' :=
  List.filterMap_append ..

theorem acceptedSockets_succ (env : Env) (n : Nat) :
    acceptedSockets env (n + 1) =
      acceptedSockets env n ++ if env.listener n = .accepted then [⟨n⟩] else [] := by
  unfold acceptedSockets
  rw [List.range_succ, List.filter_append]
  split <;> simp [*]

theorem upgradeResults_succ (env : Env) (n : Nat) :
    upgradeResults env (n + 1) =
      upgradeResults env n ++ if env.upgrade n = .pending then [] else [env.upgrade n] := by
  unfold upgradeResults
  rw [List.range_succ, List.map_append, List.filter_append]
  split <;> simp [*]

theorem acceptedSockets_nodup (env : Env) (n : Nat) : (acceptedSockets env n).Nodup :=
  ((List.nodup_range n).filter _).map fun _ _ h => by cases h; rfl

theorem sockets_sublist {items : List (Item P)} {done : List Socket}
    (h : List.Forall₂ Accounts items done) : ((okConns items).map (·.socket)).Sublist done := by
  induction h with
  | nil => exact List.Sublist.slnil
  | @cons item s items done hs _ ih =>
    match item, hs with
    | .ok c, hs => exact hs ▸ ih.cons₂ _
    | .error .sslError, _ => exact ih.cons _

/-! ## Invariants -/

/-- The sockets accepted so far are, in order, those the items account for, then the one whose
upgrade is pending. -/
def Accounted (env : Env) (w : World P) (items : List (Item P)) : Prop :=
  ∃ done, acceptedSockets env w.listenerPolls = done ++ (w.stream.upgradeFuture.map (·.socket)).toList ∧
    List.Forall₂ Accounts items done

/-- The items are, in order, what the upgrades that resolved answered, one item for each. -/
def Upgraded (env : Env) (w : World P) (items : List (Item P)) : Prop :=
  List.Forall₂ Resolves items (upgradeResults env w.upgradePolls)

/-- No upgrade has been polled or is pending, and every item is a connection not upgraded. -/
def Plain (w : World P) (items : List (Item P)) : Prop :=
  w.upgradePolls = 0 ∧ w.stream.upgradeFuture = none ∧
    ∀ item ∈ items, ∃ c, item = .ok c ∧ c.upgraded = false

section Preservation

variable {env : Env} {w w' : World P} {out : Poll (Option (Item P))} {items : List (Item P)}

theorem UpgradeStep.accounted {conn : Connection P} {done : List Socket} (h : UpgradeStep env conn w w' out)
    (hw : w.stream.upgradeFuture = none)
    (hdone : acceptedSockets env w.listenerPolls = done ++ [conn.socket])
    (hitems : List.Forall₂ Accounts items done) :
    Accounted env w' (items ++ socketItems [out]) := by
  cases h with
  | ok =>
    exact ⟨done ++ [conn.socket], by simpa [hw] using hdone,
      List.rel_append hitems (.cons rfl .nil)⟩
  | err =>
    exact ⟨done ++ [conn.socket], by simpa [hw] using hdone,
      List.rel_append hitems (.cons trivial .nil)⟩
  | pending => exact ⟨done, by simpa using hdone, by simpa [socketItems] using hitems⟩

theorem Step.accounted (h : Step env w w' out) (hi : Accounted env w items) :
    Accounted env w' (items ++ socketItems [out]) := by
  obtain ⟨done, hdone, hitems⟩ := hi
  cases h with
  | resume hc hu => exact hu.accounted rfl (by simpa [hc] using hdone) hitems
  | listenerPending hc hl | closed hc hl | listenerError hc hl =>
    exact ⟨done, by simpa [acceptedSockets_succ, hl, hc] using hdone,
      by simpa [socketItems] using hitems⟩
  | accept hc hl _ =>
    exact ⟨done ++ [⟨w.listenerPolls⟩], by simpa [acceptedSockets_succ, hl, hc] using hdone,
      List.rel_append hitems (.cons (accounts_ok.2 (World.acceptedConnection_socket w)) .nil)⟩
  | acceptUpgrade hc hl _ hu =>
    exact hu.accounted hc (by simpa [acceptedSockets_succ, hl, hc] using hdone) hitems

theorem UpgradeStep.upgraded {conn : Connection P} (h : UpgradeStep env conn w w' out)
    (hi : Upgraded env w items) : Upgraded env w' (items ++ socketItems [out]) := by
  unfold Upgraded at hi ⊢
  cases h with
  | ok hu =>
    have hr : Resolves (.ok { conn with upgraded := true }) .ok := rfl
    simpa [upgradeResults_succ, hu] using List.rel_append hi (.cons hr .nil)
  | err hu =>
    have hr : Resolves (P := P) (.error .sslError) .err := trivial
    simpa [upgradeResults_succ, hu] using List.rel_append hi (.cons hr .nil)
  | pending hu => simpa [upgradeResults_succ, hu, socketItems] using hi

theorem Step.upgraded (h : Step env w w' out)
    (hi : w.stream.shouldUpgrade = true → Upgraded env w items) :
    w'.stream.shouldUpgrade = true → Upgraded env w' (items ++ socketItems [out]) := by
  rw [h.shouldUpgrade_eq]
  intro hs
  cases h with
  | resume _ hu => exact hu.upgraded (hi hs)
  | acceptUpgrade _ _ _ hu => exact hu.upgraded (hi hs)
  | accept _ _ hs' => simp_all
  | listenerPending | closed | listenerError => simpa [socketItems] using hi hs

theorem Step.plain (h : Step env w w' out) (hi : w.stream.shouldUpgrade = false → Plain w items) :
    w'.stream.shouldUpgrade = false → Plain w' (items ++ socketItems [out]) := by
  rw [h.shouldUpgrade_eq]
  intro hs
  obtain ⟨hpolls, hnone, hitems⟩ := hi hs
  cases h with
  | resume hc _ => simp_all
  | acceptUpgrade _ _ hs' _ => simp_all
  | accept =>
    refine ⟨hpolls, hnone, fun item hitem => ?_⟩
    rcases List.mem_append.1 hitem with hitem | hitem
    · exact hitems item hitem
    · exact ⟨_, List.mem_singleton.1 hitem, World.acceptedConnection_upgraded w⟩
  | listenerPending | closed | listenerError =>
    simpa [socketItems] using (⟨hpolls, hnone, hitems⟩ : Plain w items)

end Preservation

/-! ## Runs -/

/-- A property of worlds and items that every call keeps holds after every run. -/
theorem run_invariant {env : Env} (w₀ : World P) (Inv : World P → List (Item P) → Prop)
    (hstep : ∀ {w w' out items}, Step env w w' out → Inv w items → Inv w' (items ++ socketItems [out]))
    (h0 : Inv w₀ []) : ∀ n, Inv (run env n w₀).1 (socketItems (run env n w₀).2)
  | 0 => h0
  | n + 1 => by
    rw [run, socketItems_append]
    exact hstep (pollNext_step env _) (run_invariant w₀ Inv hstep h0 n)

/-- What `n` calls of `poll_next` on a freshly bound stream `s` do, whatever the listener and
the upgrades answer. -/
structure RunSpec (env : Env) (s : AcceptedStream P) (n : Nat) : Prop where
  /-- A call made while an upgrade is pending does not poll the listener, and leaves that
  upgrade pending or resolved: at most one upgrade is in flight. -/
  listenerIdle : ∀ k < n, ∀ conn, (run env k (.init s)).1.stream.upgradeFuture = some conn →
    (run env (k + 1) (.init s)).1.listenerPolls = (run env k (.init s)).1.listenerPolls ∧
      ((run env (k + 1) (.init s)).1.stream.upgradeFuture = none ∨
        (run env (k + 1) (.init s)).1.stream.upgradeFuture = some conn)
  /-- Every socket the listener accepted, but the one whose upgrade is pending, is accounted
  for, in order, by one item: the connection on it, or the error of its upgrade. -/
  accounted : Accounted env (run env n (.init s)).1 (socketItems (run env n (.init s)).2)
  /-- No socket is yielded twice. -/
  yieldedOnce : ((okConns (socketItems (run env n (.init s)).2)).map (·.socket)).Nodup
  /-- With `should_upgrade`, the `k`-th item is what the `k`-th upgrade to resolve answered:
  the upgraded connection for `Ok`, its `SslError` for `Err`. -/
  upgraded : s.shouldUpgrade = true → Upgraded env (run env n (.init s)).1 (socketItems (run env n (.init s)).2)
  /-- Without it, no upgrade is ever polled or pending, and every item is a connection not
  upgraded. -/
  plain : s.shouldUpgrade = false → Plain (run env n (.init s)).1 (socketItems (run env n (.init s)).2)

/-- The stream `bind` returns keeps the acceptor's `should_upgrade`, and every run of `poll_next`
on it meets `RunSpec`. -/
theorem bind_runSpec (env : Env) (listenRaw : ResolvedTarget → Except IoError Unit)
    (a : Acceptor P) {s : AcceptedStream P} (hs : a.bind listenRaw = .ok s) (n : Nat) :
    s.shouldUpgrade = a.shouldUpgrade ∧ RunSpec env s n := by
  have hinit : s.shouldUpgrade = a.shouldUpgrade ∧ s.upgradeFuture = none := by
    unfold Acceptor.bind at hs
    split at hs <;> cases hs
    exact ⟨rfl, rfl⟩
  have hshould : (run env n (.init s)).1.stream.shouldUpgrade = s.shouldUpgrade :=
    run_invariant (.init s) (fun w _ => w.stream.shouldUpgrade = s.shouldUpgrade)
      (fun h hi => h.shouldUpgrade_eq.trans hi) rfl n
  have hacc := run_invariant (.init s) (Accounted env) Step.accounted
    ⟨[], by simp [acceptedSockets, World.init, hinit.2], .nil⟩ n
  refine ⟨hinit.1, fun k _ conn hk => (pollNext_step env _).of_pending hk, hacc, ?_, ?_, ?_⟩
  · obtain ⟨done, hdone, hitems⟩ := hacc
    exact (acceptedSockets_nodup env _).sublist
      (hdone ▸ (sockets_sublist hitems).trans (List.sublist_append_left _ _))
  · rw [← hshould]
    exact run_invariant (.init s) (fun w items => w.stream.shouldUpgrade = true → Upgraded env w items)
      Step.upgraded (fun _ => .nil) n
  · rw [← hshould]
    exact run_invariant (.init s) (fun w items => w.stream.shouldUpgrade = false → Plain w items)
      Step.plain (fun _ => ⟨rfl, hinit.2, nofun⟩) n

theorem bind_runSpec_newTcpTls :
    (⟨true, false, some (), none⟩ : AcceptedStream Unit).shouldUpgrade =
        (Acceptor.newTcpTls (.v4 ⟨[127, 0, 0, 1], rfl⟩ 5656) ()).shouldUpgrade ∧
      RunSpec ⟨fun _ => .accepted, fun _ => .ok⟩ (⟨true, false, some (), none⟩ : AcceptedStream Unit) 3 :=
  bind_runSpec _ (fun _ => .ok ()) (Acceptor.newTcpTls (.v4 ⟨[127, 0, 0, 1], rfl⟩ 5656) ()) rfl 3

end GelClient.Server
