import GelClient.Transport.Resolve
import GelClient.Server.Acceptor
import GelClient.Config.Dsn

/-!
# The client connector

`Connector::connect` (`connection.rs`): open a socket to the target, resolving a host name
first; set the keepalive on a TCP target; with TLS parameters, initialise the client state and,
unless the target is STARTTLS, run the handshake. The resolver, the sockets and the TLS driver
are outside the model: an `Effect` is one request to them, `Env` gives their answers, and
`ClientIo` runs `connect` with the trace of the effects it performed. `Answered Q m` holds of
`perform`, `pure` and `bind`, so of each block of `connect` and of `connect` itself.
`UpgradableStream` (`stream.rs`, not in this repository) is modelled from the spec.
-/

namespace GelClient.Stream

open GelClient.Net

/-! ## Effects -/

/-- What `connect` asks of the resolver, the sockets and the TLS driver. -/
inductive Effect (P : Type) where
  /-- `resolver.resolve_remote(host)`. -/
  | resolveRemote (host : String)
  /-- `ResolvedTarget::connect`: open a socket to the address. -/
  | connect (target : ResolvedTarget)
  /-- `stream.set_keepalive(Some(keepalive))`. -/
  | setKeepalive (keepalive : Dsn.Duration)
  /-- `D::init_client(ssl, name)`. -/
  | initClient (params : P) (name : Option ServerName)
  /-- `stm.secure_upgrade()`: the TLS handshake. -/
  | secureUpgrade

/-- The answers of the resolver, the sockets and the TLS driver. -/
structure Env (P : Type) where
  resolveRemote : String → Except IoError IpAddr
  connect : ResolvedTarget → Except IoError Unit
  setKeepalive : Dsn.Duration → Except IoError Unit
  initClient : P → Option ServerName → Bool
  secureUpgrade : Except Server.ConnectionError Unit

/-- A step of `connect`: the effects performed so far are its state, and an error ends it. -/
abbrev ClientIo (P α : Type) := ExceptT Server.ConnectionError (StateM (List (Effect P))) α

def ClientIo.exec {P α : Type} (m : ClientIo P α) (trace : List (Effect P)) :
    Except Server.ConnectionError α × List (Effect P) :=
  m.run.run trace

def perform {P α : Type} (eff : Effect P) (answer : Except Server.ConnectionError α) :
    ClientIo P α :=
  ExceptT.mk fun trace => (answer, trace ++ [eff])

def Env.answer {P : Type} (env : Env P) : Effect P → Except Server.ConnectionError Unit
  | .resolveRemote host => ((env.resolveRemote host).mapError .io).map fun _ => ()
  | .connect target => (env.connect target).mapError .io
  | .setKeepalive keepalive => (env.setKeepalive keepalive).mapError .io
  | .initClient params name => if env.initClient params name then .ok () else .error .sslError
  | .secureUpgrade => env.secureUpgrade

/-! ## The connector -/

/-- Modelled from the spec: the client side of `UpgradableStream`, with the socket, the TLS
state, the close-notify flag and whether `secure_upgrade` returned `Ok`. -/
structure ClientStream (P : Type) where
  socket : ResolvedTarget
  ssl : Option (P × Option ServerName)
  ignoreMissingCloseNotify : Bool
  upgraded : Bool

def ClientStream.newClient {P : Type} (socket : ResolvedTarget)
    (ssl : Option (P × Option ServerName)) : ClientStream P :=
  ⟨socket, ssl, false, false⟩

/-- `Connector`, with the `keepalive` feature. -/
structure Connector (P : Type) where
  target : Target P
  ignoreMissingCloseNotify : Bool
  keepalive : Option Dsn.Duration

namespace Connector

variable {P : Type}

/-- `Connector::new_explicit`; `resolverNew` is the outcome of `Resolver::new()`. -/
def newExplicit (resolverNew : Except IoError Unit) (target : Target P) :
    Except IoError (Connector P) := do
  resolverNew
  pure ⟨target, false, none⟩

def setKeepalive (c : Connector P) (keepalive : Option Dsn.Duration) : Connector P :=
  { c with keepalive := keepalive }

def ignoreMissingTlsCloseNotify (c : Connector P) : Connector P :=
  { c with ignoreMissingCloseNotify := true }

/-- The `match self.target.maybe_resolved()` block of `connect`. -/
def dial (env : Env P) : MaybeResolvedTarget → ClientIo P ResolvedTarget
  | .resolved target => do
    perform (.connect target) ((env.connect target).mapError .io)
    pure target
  | .unresolved host port _ => do
    let ip ← perform (.resolveRemote host) ((env.resolveRemote host).mapError .io)
    let target := ResolvedTarget.socketAddr (SocketAddr.new ip port)
    perform (.connect target) ((env.connect target).mapError .io)
    pure target

def keepaliveStep (env : Env P) (c : Connector P) : ClientIo P Unit :=
  match c.keepalive with
  | some keepalive =>
    if c.target.isTcp then
      perform (.setKeepalive keepalive) ((env.setKeepalive keepalive).mapError .io)
    else pure ()
  | none => pure ()

def tlsStep (dnsName : String → Option String) (env : Env P) (c : Connector P)
    (stream : ResolvedTarget) : ClientIo P (ClientStream P) :=
  match c.target.maybeSsl with
  | some ssl => do
    let name := c.target.name dnsName
    perform (.initClient ssl name) (if env.initClient ssl name then .ok () else .error .sslError)
    let stm := ClientStream.newClient stream (some (ssl, name))
    let stm :=
      if c.ignoreMissingCloseNotify then { stm with ignoreMissingCloseNotify := true } else stm
    if !c.target.isStarttls then do
      perform .secureUpgrade env.secureUpgrade
      pure { stm with upgraded := true }
    else pure stm
  | none => pure (.newClient stream none)

/-- `Connector::connect`; `dnsName` is `DnsName::try_from`, as for `Target::name`. -/
def connect (dnsName : String → Option String) (env : Env P) (c : Connector P) :
    ClientIo P (ClientStream P) := do
  let stream ← dial env c.target.maybeResolved
  c.keepaliveStep env
  c.tlsStep dnsName env stream

def runConnect (dnsName : String → Option String) (env : Env P) (c : Connector P) :
    Except Server.ConnectionError (ClientStream P) × List (Effect P) :=
  (c.connect dnsName env).exec []

end Connector

/-! ## Running steps -/

section Exec

variable {P α β : Type}

theorem exec_pure (a : α) (t : List (Effect P)) :
    (pure a : ClientIo P α).exec t = (.ok a, t) := rfl

theorem exec_perform (eff : Effect P) (a : Except Server.ConnectionError α) (t : List (Effect P)) :
    (perform eff a).exec t = (a, t ++ [eff]) := rfl

theorem exec_bind_ok {m : ClientIo P α} {t t' : List (Effect P)} {a : α}
    (h : m.exec t = (.ok a, t')) (k : α → ClientIo P β) : (m >>= k).exec t = (k a).exec t' := by
  simp only [ClientIo.exec, ExceptT.run_bind, StateT.run_bind] at h ⊢
  rw [h]
  rfl

theorem exec_bind_error {m : ClientIo P α} {t t' : List (Effect P)} {e : Server.ConnectionError}
    (h : m.exec t = (.error e, t')) (k : α → ClientIo P β) :
    (m >>= k).exec t = (.error e, t') := by
  simp only [ClientIo.exec, ExceptT.run_bind, StateT.run_bind] at h ⊢
  rw [h]
  rfl

end Exec

/-! ## Answered steps -/

section Answered

variable {P α β : Type} (env : Env P)

/-- `m` appends its effects to any trace; each satisfies `Q` and succeeded, but the last when `m`
fails, which failed with `m`'s error. -/
structure Answered (Q : Effect P → Prop) (m : ClientIo P α) : Prop where
  frame : ∀ t, m.exec t = ((m.exec []).1, t ++ (m.exec []).2)
  allowed : ∀ eff ∈ (m.exec []).2, Q eff
  ok : ∀ a, (m.exec []).1 = .ok a → ∀ eff ∈ (m.exec []).2, env.answer eff = .ok ()
  error : ∀ e, (m.exec []).1 = .error e → ∃ pre eff, (m.exec []).2 = pre ++ [eff] ∧
    (∀ x ∈ pre, env.answer x = .ok ()) ∧ env.answer eff = .error e

variable {env} {Q : Effect P → Prop}

theorem answered_pure (a : α) : Answered env Q (pure a : ClientIo P α) where
  frame _ := by simp [exec_pure]
  allowed _ h := by simp [exec_pure] at h
  ok _ _ _ h := by simp [exec_pure] at h
  error _ h := by simp [exec_pure] at h

theorem map_unit_eq {ε : Type} (x : Except ε Unit) : x.map (fun _ => ()) = x := by
  cases x <;> rfl

theorem answered_perform {eff : Effect P} {a : Except Server.ConnectionError α}
    (hq : Q eff) (ha : a.map (fun _ => ()) = env.answer eff) : Answered env Q (perform eff a) where
  frame _ := rfl
  allowed _ h := by
    simp only [exec_perform, List.nil_append, List.mem_singleton] at h
    exact h ▸ hq
  ok x h _ hx := by
    simp only [exec_perform, List.nil_append, List.mem_singleton] at h hx
    rw [hx, ← ha, h]; rfl
  error e h := ⟨[], eff, rfl, by simp, by simp only [exec_perform] at h; rw [← ha, h]; rfl⟩

theorem answered_bind {m : ClientIo P α} {k : α → ClientIo P β} (hm : Answered env Q m)
    (hk : ∀ a, (m.exec []).1 = .ok a → Answered env Q (k a)) : Answered env Q (m >>= k) := by
  rcases hr : m.exec [] with ⟨_ | a, new⟩
  · rename_i e
    have hexec : ∀ t, (m >>= k).exec t = (.error e, t ++ new) := fun t =>
      exec_bind_error (by rw [hm.frame t, hr]) k
    have hall := hm.allowed
    have herr := hm.error e
    rw [hr] at hall herr
    refine ⟨fun t => by rw [hexec, hexec, List.nil_append], fun eff h => ?_, fun _ h => ?_,
      fun e' h => ?_⟩
    · rw [hexec, List.nil_append] at h; exact hall eff h
    · simp [hexec] at h
    · rw [hexec] at h ⊢
      cases h
      exact herr rfl
  · have hk := hk a (by rw [hr])
    have hexec : ∀ t, (m >>= k).exec t = (((k a).exec []).1, t ++ new ++ ((k a).exec []).2) :=
      fun t => by rw [exec_bind_ok (by rw [hm.frame t, hr]) k, hk.frame]
    have hall := hm.allowed
    have hok := hm.ok a
    rw [hr] at hall hok
    have hok := hok rfl
    refine ⟨fun t => by rw [hexec, hexec, List.nil_append, List.append_assoc], fun eff h => ?_,
      fun b h eff heff => ?_, fun e h => ?_⟩
    · rw [hexec, List.nil_append, List.mem_append] at h
      exact h.elim (hall eff) (hk.allowed eff)
    · rw [hexec, List.nil_append, List.mem_append] at heff
      rw [hexec] at h
      exact heff.elim (hok eff) (hk.ok b h eff)
    · rw [hexec] at h ⊢
      obtain ⟨pre, eff, hpre, hpre_ok, heff⟩ := hk.error e h
      refine ⟨new ++ pre, eff, by rw [List.nil_append, hpre, List.append_assoc], ?_, heff⟩
      intro x hx
      exact (List.mem_append.1 hx).elim (hok x) (hpre_ok x)

theorem Answered.bind_ok {m : ClientIo P α} {k : α → ClientIo P β} {b : β}
    (hk : ∀ a, (m.exec []).1 = .ok a → Answered env Q (k a))
    (h : ((m >>= k).exec []).1 = .ok b) :
    ∃ a, (m.exec []).1 = .ok a ∧ ((k a).exec []).1 = .ok b ∧
      ((m >>= k).exec []).2 = (m.exec []).2 ++ ((k a).exec []).2 := by
  rcases hr : m.exec [] with ⟨_ | a, new⟩
  · rw [exec_bind_error hr] at h; cases h
  · have hexec := exec_bind_ok hr k
    rw [(hk a (by rw [hr])).frame] at hexec
    rw [hexec] at h ⊢
    exact ⟨a, rfl, h, rfl⟩

theorem Answered.bind_prefix {m : ClientIo P α} {k : α → ClientIo P β}
    (hk : ∀ a, (m.exec []).1 = .ok a → Answered env Q (k a)) :
    ∃ rest, ((m >>= k).exec []).2 = (m.exec []).2 ++ rest := by
  rcases hr : m.exec [] with ⟨_ | a, new⟩
  · exact ⟨[], by rw [exec_bind_error hr, List.append_nil]⟩
  · exact ⟨_, by rw [exec_bind_ok hr, (hk a (by rw [hr])).frame]⟩

end Answered

/-! ## The blocks of `connect` -/

namespace Connector

variable {P : Type} (dnsName : String → Option String) (env : Env P) (c : Connector P)

/-- The effects `connect` may perform: resolving the target's host, a socket to the target's
address or the resolved one at its port, the configured keepalive on TCP, the TLS driver with
the target's parameters and name, and the handshake when `connectStartsHandshake` holds. -/
def Allowed : Effect P → Prop
  | .resolveRemote host =>
    ∃ port interface, c.target.maybeResolved = .unresolved host port interface
  | .connect addr =>
    c.target.maybeResolved = .resolved addr ∨
      ∃ host port interface ip, c.target.maybeResolved = .unresolved host port interface ∧
        env.resolveRemote host = .ok ip ∧ addr = .socketAddr (SocketAddr.new ip port)
  | .setKeepalive keepalive => c.keepalive = some keepalive ∧ c.target.isTcp = true
  | .initClient params name => c.target.maybeSsl = some params ∧ name = c.target.name dnsName
  | .secureUpgrade => connectStartsHandshake c.target = true

theorem answered_dial : Answered env (c.Allowed dnsName env) (dial env c.target.maybeResolved) := by
  cases hm : c.target.maybeResolved with
  | resolved target =>
    exact answered_bind (answered_perform (.inl hm) (map_unit_eq _)) fun _ _ => answered_pure _
  | unresolved host port interface =>
    refine answered_bind (answered_perform ⟨port, interface, hm⟩ rfl) fun ip hip => ?_
    have hip : env.resolveRemote host = .ok ip := by
      simp only [exec_perform] at hip
      cases h : env.resolveRemote host <;> simp [h, Except.mapError] at hip ⊢
      exact hip
    exact answered_bind
      (answered_perform (.inr ⟨host, port, interface, ip, hm, hip, rfl⟩) (map_unit_eq _))
      fun _ _ => answered_pure _

theorem answered_keepaliveStep : Answered env (c.Allowed dnsName env) (c.keepaliveStep env) := by
  unfold keepaliveStep
  split
  · rename_i keepalive hk
    split
    · exact answered_perform ⟨hk, ‹_›⟩ (map_unit_eq _)
    · exact answered_pure _
  · exact answered_pure _

theorem answered_tlsStep (stream : ResolvedTarget) :
    Answered env (c.Allowed dnsName env) (c.tlsStep dnsName env stream) := by
  unfold tlsStep
  split
  · rename_i ssl hssl
    refine answered_bind (answered_perform ⟨hssl, rfl⟩ (by rw [map_unit_eq]; rfl)) fun _ _ => ?_
    dsimp only
    split
    · rename_i hstart
      refine answered_bind (answered_perform ?_ (map_unit_eq _)) fun _ _ => answered_pure _
      simpa [Allowed, connectStartsHandshake, hssl] using hstart
    · exact answered_pure _
  · exact answered_pure _

theorem answered_connect : Answered env (c.Allowed dnsName env) (c.connect dnsName env) :=
  answered_bind (answered_dial dnsName env c) fun stream _ =>
    answered_bind (answered_keepaliveStep dnsName env c) fun _ _ =>
      answered_tlsStep dnsName env c stream

/-! ## What a successful `connect` did -/

theorem dial_resolved (target : ResolvedTarget) : (dial env (.resolved target)).exec [] =
    (((env.connect target).mapError .io).map fun _ => target, [.connect target]) := by
  cases h : env.connect target with
  | error e => exact exec_bind_error (by rw [exec_perform, h]; rfl) _
  | ok u => exact exec_bind_ok (by rw [exec_perform, h]; rfl) _

theorem dial_unresolved (host : String) (port : BitVec 16) (interface : Option String) :
    (dial env (.unresolved host port interface)).exec [] =
      match env.resolveRemote host with
      | .error e => (.error (.io e), [.resolveRemote host])
      | .ok ip =>
        (((env.connect (.socketAddr (SocketAddr.new ip port))).mapError .io).map
            fun _ => .socketAddr (SocketAddr.new ip port),
          [.resolveRemote host, .connect (.socketAddr (SocketAddr.new ip port))]) := by
  cases h : env.resolveRemote host with
  | error e => exact exec_bind_error (by rw [exec_perform, h]; rfl) _
  | ok ip =>
    rw [dial, exec_bind_ok (by rw [exec_perform, h]; rfl)]
    dsimp only
    cases env.connect (.socketAddr (SocketAddr.new ip port)) with
    | error e => exact exec_bind_error rfl _
    | ok u => exact exec_bind_ok rfl _

theorem dial_ok {m : MaybeResolvedTarget} {stream : ResolvedTarget}
    (h : ((dial env m).exec []).1 = .ok stream) : .connect stream ∈ ((dial env m).exec []).2 := by
  cases m with
  | resolved target =>
    rw [dial_resolved] at h ⊢
    cases hc : env.connect target <;> simp [hc, Except.mapError, Except.map] at h ⊢
    exact h.symm
  | unresolved host port interface =>
    rw [dial_unresolved] at h ⊢
    cases hr : env.resolveRemote host with
    | error e => simp [hr] at h
    | ok ip =>
      cases hc : env.connect (.socketAddr (SocketAddr.new ip port)) <;>
        simp [hr, hc, Except.mapError, Except.map] at h ⊢
      exact h.symm

theorem keepaliveStep_trace : ((c.keepaliveStep env).exec []).2 =
    match c.keepalive with
    | some keepalive => if c.target.isTcp then [.setKeepalive keepalive] else []
    | none => [] := by
  unfold keepaliveStep
  split
  · split <;> rfl
  · rfl

theorem tlsStep_exec (stream : ResolvedTarget) : (c.tlsStep dnsName env stream).exec [] =
    match c.target.maybeSsl with
    | some ssl =>
      if env.initClient ssl (c.target.name dnsName) then
        if c.target.isStarttls then
          (.ok ⟨stream, some (ssl, c.target.name dnsName), c.ignoreMissingCloseNotify, false⟩,
            [.initClient ssl (c.target.name dnsName)])
        else
          (env.secureUpgrade.map fun _ =>
              ⟨stream, some (ssl, c.target.name dnsName), c.ignoreMissingCloseNotify, true⟩,
            [.initClient ssl (c.target.name dnsName), .secureUpgrade])
      else (.error .sslError, [.initClient ssl (c.target.name dnsName)])
    | none => (.ok (.newClient stream none), []) := by
  unfold tlsStep
  cases c.target.maybeSsl with
  | none => rfl
  | some ssl =>
    dsimp only
    cases env.initClient ssl (c.target.name dnsName)
    · exact exec_bind_error rfl _
    · refine (exec_bind_ok (by rfl) _).trans ?_
      cases c.target.isStarttls
      · cases env.secureUpgrade
        · exact exec_bind_error rfl _
        · cases c.ignoreMissingCloseNotify <;> exact exec_bind_ok rfl _
      · cases c.ignoreMissingCloseNotify <;> rfl

theorem tlsStep_ok {stream : ResolvedTarget} {s : ClientStream P}
    (h : ((c.tlsStep dnsName env stream).exec []).1 = .ok s) :
    s = ⟨stream, c.target.maybeSsl.map (·, c.target.name dnsName),
        c.ignoreMissingCloseNotify && c.target.maybeSsl.isSome,
        connectStartsHandshake c.target⟩ ∧
      (.secureUpgrade ∈ ((c.tlsStep dnsName env stream).exec []).2 ↔
        connectStartsHandshake c.target = true) := by
  rw [tlsStep_exec] at h ⊢
  simp only [connectStartsHandshake]
  cases hssl : c.target.maybeSsl with
  | none =>
    rw [hssl] at h
    cases h
    simp [ClientStream.newClient]
  | some ssl =>
    rw [hssl] at h
    cases hi : env.initClient ssl (c.target.name dnsName)
    · simp [hi] at h
    cases hst : c.target.isStarttls
    · cases hu : env.secureUpgrade <;> simp [hi, hst, hu, Except.map] at h
      subst h
      simp [hi, hst]
    · simp [hi, hst] at h
      subst h
      simp [hi, hst]

/-! ## `connect` -/

/-- Whatever the world answers: when `connect` returns a stream, every effect it performed
succeeded; when it fails, it stopped at the first effect that failed, with that effect's error. -/
theorem connect_answered :
    (∀ s, (c.runConnect dnsName env).1 = .ok s →
        ∀ eff ∈ (c.runConnect dnsName env).2, env.answer eff = .ok ()) ∧
      ∀ e, (c.runConnect dnsName env).1 = .error e →
        ∃ pre eff, (c.runConnect dnsName env).2 = pre ++ [eff] ∧
          (∀ x ∈ pre, env.answer x = .ok ()) ∧ env.answer eff = .error e :=
  ⟨(answered_connect dnsName env c).ok, (answered_connect dnsName env c).error⟩

/-- Whatever the world answers, every effect `connect` performs is one `Allowed` admits. -/
theorem connect_allowed : ∀ eff ∈ (c.runConnect dnsName env).2, c.Allowed dnsName env eff :=
  (answered_connect dnsName env c).allowed

def loopbackEnv : Env Unit :=
  ⟨fun _ => .ok (.v4 ⟨[127, 0, 0, 1], rfl⟩), fun _ => .ok (), fun _ => .ok (), fun _ _ => true,
    .ok ()⟩

def localhostTls : Connector Unit :=
  ⟨.newTcpTls (.unresolved "localhost" 5656 none) (), false, some ⟨60000000000⟩⟩

theorem runConnect_localhostTls_trace : (localhostTls.runConnect some loopbackEnv).2 =
    [.resolveRemote "localhost", .connect (.socketAddr (SocketAddr.new (.v4 ⟨[127, 0, 0, 1], rfl⟩) 5656)),
      .setKeepalive ⟨60000000000⟩, .initClient () (some (.dnsName "localhost")), .secureUpgrade] :=
  rfl

theorem connect_allowed_localhostTls :
    Effect.secureUpgrade ∈ (localhostTls.runConnect some loopbackEnv).2 ∧
      localhostTls.Allowed some loopbackEnv .secureUpgrade :=
  have h : Effect.secureUpgrade ∈ (localhostTls.runConnect some loopbackEnv).2 := by
    rw [runConnect_localhostTls_trace]; simp
  ⟨h, connect_allowed some loopbackEnv localhostTls _ h⟩

/-- A successful `connect`: its socket, TLS state, close-notify flag and handshake are fixed by the
target's accessors, and the keepalive was set exactly when configured on a TCP target. -/
theorem connect_ok {s : ClientStream P} (h : (c.runConnect dnsName env).1 = .ok s) :
    c.Allowed dnsName env (.connect s.socket) ∧
      s.ssl = c.target.maybeSsl.map (·, c.target.name dnsName) ∧
      s.ignoreMissingCloseNotify = (c.ignoreMissingCloseNotify && c.target.maybeSsl.isSome) ∧
      s.upgraded = connectStartsHandshake c.target ∧
      (.secureUpgrade ∈ (c.runConnect dnsName env).2 ↔ s.upgraded = true) ∧
      ∀ keepalive, .setKeepalive keepalive ∈ (c.runConnect dnsName env).2 ↔
        c.keepalive = some keepalive ∧ c.target.isTcp = true := by
  have hc := answered_connect dnsName env c
  obtain ⟨stream, hd, hrest, htrace⟩ := Answered.bind_ok (fun stream _ =>
    answered_bind (answered_keepaliveStep dnsName env c) fun _ _ =>
      answered_tlsStep dnsName env c stream) h
  obtain ⟨u, -, ht, htrace'⟩ :=
    Answered.bind_ok (fun _ _ => answered_tlsStep dnsName env c stream) hrest
  obtain ⟨rfl, hup⟩ := tlsStep_ok dnsName env c ht
  have hmem : .connect stream ∈ (c.runConnect dnsName env).2 :=
    htrace ▸ List.mem_append_left _ (dial_ok env hd)
  refine ⟨hc.allowed _ hmem, rfl, rfl, rfl, ⟨hc.allowed _, fun hs => ?_⟩,
    fun keepalive => ⟨hc.allowed _, fun ⟨hk, htcp⟩ => ?_⟩⟩
  · rw [runConnect, connect, htrace, htrace']
    exact List.mem_append_right _ (List.mem_append_right _ (hup.2 hs))
  · rw [runConnect, connect, htrace, htrace', keepaliveStep_trace, hk]
    simp [htcp]

theorem connect_ok_localhostTls :
    (localhostTls.runConnect some loopbackEnv).1 =
        .ok ⟨.socketAddr (SocketAddr.new (.v4 ⟨[127, 0, 0, 1], rfl⟩) 5656),
          some ((), some (.dnsName "localhost")), false, true⟩ ∧
      localhostTls.Allowed some loopbackEnv
        (.connect (.socketAddr (SocketAddr.new (.v4 ⟨[127, 0, 0, 1], rfl⟩) 5656))) ∧
      some ((), some (.dnsName "localhost")) =
        localhostTls.target.maybeSsl.map (·, localhostTls.target.name some) ∧
      false = (localhostTls.ignoreMissingCloseNotify && localhostTls.target.maybeSsl.isSome) ∧
      true = connectStartsHandshake localhostTls.target ∧
      (.secureUpgrade ∈ (localhostTls.runConnect some loopbackEnv).2 ↔ true = true) ∧
      ∀ keepalive, .setKeepalive keepalive ∈ (localhostTls.runConnect some loopbackEnv).2 ↔
        localhostTls.keepalive = some keepalive ∧ localhostTls.target.isTcp = true :=
  have h : (localhostTls.runConnect some loopbackEnv).1 =
      .ok ⟨.socketAddr (SocketAddr.new (.v4 ⟨[127, 0, 0, 1], rfl⟩) 5656),
        some ((), some (.dnsName "localhost")), false, true⟩ := rfl
  ⟨h, connect_ok some loopbackEnv localhostTls h⟩

theorem keepaliveStep_of_not_isTcp (h : c.target.isTcp = false) :
    c.keepaliveStep env = pure () := by
  unfold keepaliveStep
  split
  · rw [if_neg (by simp [h])]
  · rfl

theorem tlsStep_of_maybeSsl (h : c.target.maybeSsl = none) (stream : ResolvedTarget) :
    c.tlsStep dnsName env stream = pure (.newClient stream none) := by
  unfold tlsStep
  rw [h]

/-- On a non-empty Unix path, after any target operations, `connect` only opens the socket at the
path and returns it as a plain stream, whatever the connector's settings. -/
theorem connect_unixPath_run {path : List Byte} {t : Target P} (h : Target.newUnixPath path = .ok t)
    (hne : path ≠ []) (ops : List (TargetOp P)) (c : Connector P) (hc : c.target = t.run ops) :
    ∃ addr, t = ⟨.noTls (.resolved (.unixSocketAddr addr))⟩ ∧ addr.asPathname = some path ∧
      c.runConnect dnsName env =
        (((env.connect (.unixSocketAddr addr)).mapError .io).map
            fun _ => .newClient (.unixSocketAddr addr) none,
          [.connect (.unixSocketAddr addr)]) := by
  simp only [Target.newUnixPath, bind, Except.bind] at h
  split at h
  · cases h
  · rename_i addr haddr
    cases h
    have hp := UnixSocketAddr.fromPathname_asPathname haddr hne
    rw [Target.run_eq_self (Target.apply_of_asPathname (by simp [hp]))] at hc
    refine ⟨addr, rfl, hp, ?_⟩
    have hk : c.keepaliveStep env = pure () := keepaliveStep_of_not_isTcp env c (by rw [hc]; rfl)
    have ht := tlsStep_of_maybeSsl dnsName env c (by rw [hc]; rfl)
    have hd := dial_resolved env (.unixSocketAddr addr)
    simp only [runConnect, connect, hk, ht, hc]
    cases hcon : env.connect (.unixSocketAddr addr) with
    | error e => rw [hcon] at hd; exact exec_bind_error hd _
    | ok u => rw [hcon] at hd; exact exec_bind_ok hd _

theorem connect_unixPath_run_slashS :
    Target.newUnixPath [0x2f, 0x73] = .ok Target.slashS ∧ [0x2f, 0x73] ≠ ([] : List Byte) ∧
      (⟨Target.slashS.run [.trySetTls ()], true, some ⟨1⟩⟩ : Connector Unit).target =
        Target.slashS.run [.trySetTls ()] ∧
      ∃ addr, Target.slashS = ⟨.noTls (.resolved (.unixSocketAddr addr))⟩ ∧
        addr.asPathname = some [0x2f, 0x73] ∧
        (⟨Target.slashS.run [.trySetTls ()], true, some ⟨1⟩⟩ : Connector Unit).runConnect some
            loopbackEnv =
          (((loopbackEnv.connect (.unixSocketAddr addr)).mapError .io).map
              fun _ => .newClient (.unixSocketAddr addr) none,
            [.connect (.unixSocketAddr addr)]) :=
  have h : Target.newUnixPath [0x2f, 0x73] = .ok Target.slashS := rfl
  ⟨h, List.cons_ne_nil _ _, rfl,
    connect_unixPath_run some loopbackEnv h (List.cons_ne_nil _ _) [.trySetTls ()] _ rfl⟩

/-- A target built by `TcpResolve` asks the resolver, and only about its host, exactly when the host
is no IP address; sockets are opened only at `SocketAddr::new(ip, port)`. -/
theorem connect_tcpResolve (host : String) (port : BitVec 16) (c : Connector P)
    (hc : c.target.maybeResolved = tcpResolve host port) :
    ((∃ name, .resolveRemote name ∈ (c.runConnect dnsName env).2) ↔
        parseIpAddr host = none) ∧
      (∀ name, .resolveRemote name ∈ (c.runConnect dnsName env).2 → name = host) ∧
      ∀ addr, .connect addr ∈ (c.runConnect dnsName env).2 →
        ∃ ip, addr = .socketAddr (SocketAddr.new ip port) ∧
          (parseIpAddr host = some ip ∨
            parseIpAddr host = none ∧ env.resolveRemote host = .ok ip) := by
  have hall := (answered_connect dnsName env c).allowed
  refine ⟨⟨fun ⟨name, hn⟩ => ?_, fun hp => ?_⟩, fun name hn => ?_, fun addr ha => ?_⟩
  · obtain ⟨port', interface, hm⟩ := hall _ hn
    cases hp : parseIpAddr host
    · rfl
    · rw [hc, tcpResolve_of_parse hp] at hm; cases hm
  · obtain ⟨rest, hrest⟩ : ∃ rest, (c.runConnect dnsName env).2 =
        ((dial env c.target.maybeResolved).exec []).2 ++ rest :=
      Answered.bind_prefix fun stream _ =>
        answered_bind (answered_keepaliveStep dnsName env c) fun _ _ =>
          answered_tlsStep dnsName env c stream
    refine ⟨host, hrest ▸ List.mem_append_left _ ?_⟩
    rw [hc, tcpResolve_of_not_parse hp, dial_unresolved]
    cases env.resolveRemote host <;> simp
  · obtain ⟨port', interface, hm⟩ := hall _ hn
    cases hp : parseIpAddr host
    · rw [hc, tcpResolve_of_not_parse hp] at hm; cases hm; rfl
    · rw [hc, tcpResolve_of_parse hp] at hm; cases hm
  · rcases hall _ ha with hm | ⟨host', port', interface, ip, hm, hip, rfl⟩
    · cases hp : parseIpAddr host with
      | none => rw [hc, tcpResolve_of_not_parse hp] at hm; cases hm
      | some ip => rw [hc, tcpResolve_of_parse hp] at hm; cases hm; exact ⟨ip, rfl, .inl rfl⟩
    · cases hp : parseIpAddr host with
      | none =>
        rw [hc, tcpResolve_of_not_parse hp] at hm
        cases hm
        exact ⟨ip, rfl, .inr ⟨rfl, hip⟩⟩
      | some ip' => rw [hc, tcpResolve_of_parse hp] at hm; cases hm

def localhostPlain : Connector Unit := ⟨.newTcp (tcpResolve "localhost" 5656), false, none⟩

theorem connect_tcpResolve_localhost :
    localhostPlain.target.maybeResolved = tcpResolve "localhost" 5656 ∧
      ((∃ name, .resolveRemote name ∈ (localhostPlain.runConnect some loopbackEnv).2) ↔
        parseIpAddr "localhost" = none) ∧
      (∀ name, .resolveRemote name ∈ (localhostPlain.runConnect some loopbackEnv).2 →
        name = "localhost") ∧
      ∀ addr, .connect addr ∈ (localhostPlain.runConnect some loopbackEnv).2 →
        ∃ ip, addr = .socketAddr (SocketAddr.new ip 5656) ∧
          (parseIpAddr "localhost" = some ip ∨
            parseIpAddr "localhost" = none ∧ loopbackEnv.resolveRemote "localhost" = .ok ip) :=
  ⟨rfl, connect_tcpResolve some loopbackEnv "localhost" 5656 localhostPlain rfl⟩

end Connector

end GelClient.Stream
