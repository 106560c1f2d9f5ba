import ScsiCli.Gatherers
import ScsiCli.IscsiCompletion
import ScsiCli.LiteralCopies

/-!
# Rows of the iSCSI listing

The listing has one row for each host, for the first session of the host and
the last connection of that session. It is complete where every host has one
session, and a row is about its session where the session can be looked into
and what is shown of it is short and free of percent signs.
-/

set_option autoImplicit false

namespace ScsiCli.IscsiRows
open ScsiCli.RunTrace ScsiCli.ByteString ScsiCli.Records ScsiCli.Machine ScsiCli.SysfsUtils
open ScsiCli.IscsiUtils ScsiCli.MachineRules ScsiCli.Gatherers ScsiCli.Completion
open ScsiCli.IscsiCompletion ScsiCli.LiteralCopies

variable {env : Env}

/-! ## The first line of a file -/

def firstLine (env : Env) (path : Str) : Str :=
  match env.file path with
  | .bytes b => removeNewline (cString b)
  | _ => []

theorem cString_cons {c : Char} (h : c ≠ nul) (b : Str) : cString (c :: b) = c :: cString b :=
  List.takeWhile_cons_of_pos (by simpa using h)

theorem removeNewline_cons {c : Char} (h : c ≠ '\n') (b : Str) :
    removeNewline (c :: b) = c :: removeNewline b :=
  List.takeWhile_cons_of_pos (by simpa using h)

theorem removeNewline_lineBytes (n : ℕ) (b : Str) :
    removeNewline (cString (lineBytes n b)) = (removeNewline (cString b)).take n := by
  induction b generalizing n with
  | nil => cases n <;> rfl
  | cons c b ih =>
    cases n with
    | zero => rfl
    | succ n =>
      by_cases hn : c = '\n'
      · have hc : c ≠ nul := by
          rw [hn]
          decide
        rw [lineBytes, if_pos hn, cString_cons hc, cString_cons hc]
        simp [removeNewline, hn]
      · rw [lineBytes, if_neg hn]
        by_cases hz : c = nul
        · simp [cString, hz, removeNewline]
        · rw [cString_cons hz, cString_cons hz, removeNewline_cons hn, removeNewline_cons hn,
            List.take_succ_cons, ih]

theorem formatted_firstLine (path : Str) : ((line env path).map env.format).getD [] =
    env.format ((firstLine env path).take 63) := by
  have h0 : env.format [] = [] := by simp [Env.format, expand]
  unfold line stream firstLine
  cases env.file path with
  | absent => simp [h0]
  | unreadable => simp [fgets, h0]
  | bytes b =>
    cases b with
    | nil => simp [fgets, cString, removeNewline, h0]
    | cons c b =>
      have hr := removeNewline_lineBytes 63 (c :: b)
      simp [fgets, hr]

/-- A text that is shown as it is: short enough to be read whole, and no format. -/
def AsIs (t : Str) : Prop := '%' ∉ t ∧ t.length ≤ 63

theorem shown_plain_iff (t : Str) :
    (∀ w, (env.withWild w).format (t.take 63) = t) ↔ AsIs t := by
  constructor
  · intro h
    have hs := h Wild.silent
    rw [format_withWild] at hs
    cases he : expand (t.take 63) with
    | none =>
      rw [he] at hs
      obtain rfl : [] = t := hs
      simp [expand] at he
    | some u =>
      rw [he, Option.getD_some] at hs
      subst hs
      have hl := expand_length_le he
      rw [List.length_take] at hl
      have ht : u.take 63 = u := List.take_of_length_le (by omega)
      rw [ht] at he
      exact ⟨(expand_fixed_iff he).mp rfl,by omega⟩
  · rintro ⟨hp,hl⟩ w
    rw [List.take_of_length_le hl, format_withWild, expand_plain hp]
    rfl

theorem shown_nothing_iff (t : Str) :
    (∀ w, (env.withWild w).format (t.take 63) = []) ↔ t = [] := by
  constructor
  · intro h
    by_contra ht
    have hne : t.take 63 ≠ [] := by simpa using ht
    have hs := h ⟨fun _ => ['?'],by simp⟩
    rw [format_withWild] at hs
    cases he : expand (t.take 63) with
    | none =>
      rw [he] at hs
      cases hs
    | some u =>
      rw [he, Option.getD_some] at hs
      subst hs
      cases hc : t.take 63 with
      | nil => exact hne hc
      | cons c s =>
        rw [hc] at he
        by_cases hp : c = '%'
        · subst hp
          obtain ⟨s',t',-,-,hn⟩ := expand_percent_some he
          cases hn
        · rw [expand_cons_ne hp] at he
          simp at he
  · rintro rfl w
    rw [List.take_nil, format_withWild]
    simp [expand]

/-! ## The rows -/

structure IscsiRow where
  host : Option Str
  session : Option Str
  connection : Option Str
  target : Option Str
  address : Option Str
  port : Option Str

def rowOf : Event → Option IscsiRow
  | .out (.listIscsiDev i) =>
    some ⟨i.hostName,i.sessionName,i.connectionName,i.targetName,i.connAddress,i.connPort⟩
  | _ => none

theorem quiet_rowOf {e : Event} (h : Gathers e) : rowOf e = none := by
  cases e with
  | out o => cases o <;> first | rfl | cases h
  | _ => rfl

def attrOfSession (session : Option Str) (file : Str) : Str :=
  SYSFS_ISCSI_SESS_PATH ++ "/" ++ orNull session ++ "/" ++ file

def attrOfConnection (connection : Option Str) (file : Str) : Str :=
  SYSFS_ISCSI_CONN_PATH ++ "/" ++ orNull connection ++ "/" ++ file

def shown (env : Env) (path : Str) : Str := env.format ((firstLine env path).take 63)

/-- The row of a host. Nothing is read where the session's directory does not open. -/
def rowFor (env : Env) (host : Str) : IscsiRow :=
  let s := sessionEntry env host
  let c := connectionEntryOf env (connectionHome host s)
  match env.dir (connectionHome host s) with
  | none => ⟨some host,s,none,none,none,none⟩
  | some _ => ⟨some host,s,c,some (shown env (attrOfSession s "targetname")),
      some (shown env (attrOfConnection c "address")),some (shown env (attrOfConnection c "port"))⟩

/-- A host of which nothing is known but, perhaps, its session. -/
structure Fresh (host : Str) (s : Option Str) (i : IscsiDevInfo) : Prop where
  host : i.hostName = some host
  session : i.sessionName = s
  connection : i.connectionName = none
  target : i.targetName = none
  address : i.connAddress = none
  port : i.connPort = none

theorem fresh_withSession (host : Str) (t : Option Str) : Fresh host (sessionEntry env host)
    (withSession env host { iscsiHost host with transportName := t }) := by
  unfold withSession
  cases sessionEntry env host <;> exact ⟨rfl,rfl,rfl,rfl,rfl,rfl⟩

theorem loaded_targetName (i : IscsiDevInfo) : loaded env (sessionFile i) [targetNameRow] i =
    { i with targetName := some (shown env (attrOfSession i.sessionName "targetname")) } := by
  have ht := @formatted_firstLine env (attrOfSession i.sessionName "targetname")
  rw [shown, ← ht]
  rfl

theorem loaded_connRows (i : IscsiDevInfo) : loaded env (connectionFile i) connRows i =
    { i with
      connAddress := some (shown env (attrOfConnection i.connectionName "address"))
      connPort := some (shown env (attrOfConnection i.connectionName "port")) } := by
  have ha := @formatted_firstLine env (attrOfConnection i.connectionName "address")
  have hp := @formatted_firstLine env (attrOfConnection i.connectionName "port")
  rw [shown, shown, ← ha, ← hp]
  rfl

theorem fillConnectionInfo_opened {i : IscsiDevInfo} {l : Listing}
    (h : env.dir (connectionHome (orNull i.hostName) i.sessionName) = some l) :
    ∃ c p n, c = (((forEachDir l.entries).filter isConnection).getLast?.map Dirent.dName).or
        i.connectionName ∧
      Returns (fillConnectionInfo i) env
        { connected i c p n with
          targetName := some (shown env (attrOfSession i.sessionName "targetname"))
          connAddress := some (shown env (attrOfConnection c "address"))
          connPort := some (shown env (attrOfConnection c "port")) } := by
  have ho : lit "/sys/class/iscsi_host/" ++ orNull i.hostName ++ lit "/device/" ++
      orNull i.sessionName = connectionHome (orNull i.hostName) i.sessionName := rfl
  have hpt : ∀ a ∈ [targetNameRow], Plain a := fun a ha =>
    plain_connRows a (by simp_all)
  have hpc : ∀ a ∈ connRows, Plain a := fun a ha =>
    plain_connRows a (by simp_all)
  obtain ⟨p,n,hj⟩ := @connections_eq env (connectionHome (orNull i.hostName) i.sessionName)
    (forEachDir l.entries) i
  refine ⟨_,p,n,rfl,?_⟩
  simp only [fillConnectionInfo, ho, returns_bind, returns_store, exists_eq_left, returns_opendir,
    h, Option.map_some, returns_closedir, true_and, exists_const, returns_loadAllInto,
    returns_loadAll_plain hpt, returns_loadAll_plain hpc]
  refine ⟨_,hj,?_⟩
  rw [loaded_targetName, loaded_connRows]
  rfl

theorem fillConnectionInfo_row {host : Str} {s : Option Str} {i : IscsiDevInfo}
    (h : Fresh host s i) : ∃ j, Returns (fillConnectionInfo i) env j ∧
      rowOf (.out (.listIscsiDev j)) =
        some (match env.dir (connectionHome host s) with
          | none => ⟨some host,s,none,none,none,none⟩
          | some _ => ⟨some host,s,connectionEntryOf env (connectionHome host s),
              some (shown env (attrOfSession s "targetname")),
              some (shown env (attrOfConnection
                (connectionEntryOf env (connectionHome host s)) "address")),
              some (shown env (attrOfConnection
                (connectionEntryOf env (connectionHome host s)) "port"))⟩) := by
  have ho : connectionHome (orNull i.hostName) i.sessionName = connectionHome host s := by
    rw [h.host, h.session]
    rfl
  cases hd : env.dir (connectionHome host s) with
  | none =>
    have hp : lit "/sys/class/iscsi_host/" ++ orNull i.hostName ++ lit "/device/" ++
        orNull i.sessionName = connectionHome host s := ho
    refine ⟨i,?_,?_⟩
    · simp only [fillConnectionInfo, hp, returns_bind, returns_store, exists_eq_left,
        returns_opendir, hd, Option.map_none, returns_printInfo, exists_const, returns_pure,
        and_self]
    · simp [rowOf, h.host, h.session, h.connection, h.target, h.address, h.port]
  | some l =>
    obtain ⟨c,p,n,hc,hj⟩ := fillConnectionInfo_opened (ho ▸ hd)
    have he : connectionEntryOf env (connectionHome host s) = c := by
      simp [connectionEntryOf, entriesOf, hd, hc, h.connection]
    refine ⟨_,hj,?_⟩
    simp [rowOf, connected, h.host, h.session, he]

theorem row_iscsiRow (e : Dirent) : observed rowOf (iscsiRow e) env = [rowFor env e.dName] := by
  obtain ⟨t,hj⟩ := @identified_eq env e.dName
  obtain ⟨k,hk,hr⟩ := @fillConnectionInfo_row env _ _ _ (@fresh_withSession env e.dName t)
  rw [iscsiRow_eq, observed_bind_of_returns _ _ hj,
    observed_of_emits _ (gathers_identified _) fun _ => quiet_rowOf,
    observed_bind_of_returns _ _ hk,
    observed_of_emits _ (gathers_fillConnectionInfo _) fun _ => quiet_rowOf, observed_print, hr]
  rfl

def hosts (env : Env) : List Str := (entriesOf env SYSFS_ISCSI_HOST_PATH).map Dirent.dName

theorem rows_listIscsiDevs :
    observed rowOf listIscsiDevs env = (hosts env).map (rowFor env) := by
  rw [observed_listIscsiDevs rowOf (fun _ => quiet_rowOf) rfl rfl row_iscsiRow, hosts,
    List.map_map, ← List.map_eq_flatMap]
  split
  · next he => rw [he, List.map_nil]
  · rfl

/-! ## What the listing should say -/

def sessionsOf (env : Env) (host : Str) : List Str :=
  ((entriesOf env (sessionHome host)).filter isSession).map Dirent.dName

def connectionsOf (env : Env) (host session : Str) : List Str :=
  ((entriesOf env (connectionHome host (some session))).filter isConnection).map Dirent.dName

structure About (env : Env) (host session : Str) (r : IscsiRow) : Prop where
  target : r.target = some (firstLine env (attrOfSession (some session) "targetname"))
  connection : match r.connection with
    | some c => c ∈ connectionsOf env host session ∧
        r.address = some (firstLine env (attrOfConnection (some c) "address")) ∧
          r.port = some (firstLine env (attrOfConnection (some c) "port"))
    | none => connectionsOf env host session = [] ∧ r.address.getD [] = [] ∧ r.port.getD [] = []

/-- Each session of each host has one row, no other row is there, and each row is about
its session. -/
structure Complete (env : Env) : Prop where
  sessions : ((observed rowOf listIscsiDevs env).map fun r => (r.host,r.session)).Perm
    ((hosts env).flatMap fun h => (sessionsOf env h).map fun s => (some h,some s))
  about : ∀ r ∈ observed rowOf listIscsiDevs env, ∀ h s, r.host = some h → r.session = some s →
    About env h s r

/-- What is shown of a connection is as it is, and nothing is shown for none. -/
def ConnectionShown (env : Env) : Option Str → Prop
  | some c => AsIs (firstLine env (attrOfConnection (some c) "address")) ∧
      AsIs (firstLine env (attrOfConnection (some c) "port"))
  | none => firstLine env (attrOfConnection none "address") = [] ∧
      firstLine env (attrOfConnection none "port") = []

/-- A host whose row is the row of its only session. -/
structure Followed (env : Env) (host session : Str) : Prop where
  only : sessionsOf env host = [session]
  opens : (env.dir (connectionHome host (some session))).isSome
  target : AsIs (firstLine env (attrOfSession (some session) "targetname"))
  connection : ConnectionShown env (connectionsOf env host session).getLast?

theorem sum_eq_length {α : Type} {g : α → ℕ} {xs : List α} (h : ∀ x ∈ xs, 1 ≤ g x)
    (hs : (xs.map g).sum = xs.length) : ∀ x ∈ xs, g x = 1 := by
  have hle : ∀ ys : List α, (∀ x ∈ ys, 1 ≤ g x) → ys.length ≤ (ys.map g).sum := by
    intro ys hy
    induction ys with
    | nil => simp
    | cons y ys ih =>
      have h1 := hy y (by simp)
      have h2 := ih fun x hx => hy x (by simp [hx])
      simp only [List.length_cons, List.map_cons, List.sum_cons]
      omega
  induction xs with
  | nil => simp
  | cons x xs ih =>
    have h1 := h x (by simp)
    have h2 := hle xs fun y hy => h y (by simp [hy])
    simp only [List.length_cons, List.map_cons, List.sum_cons] at hs
    rw [List.forall_mem_cons]
    constructor
    · omega
    · exact ih (fun y hy => h y (by simp [hy])) (by omega)

/-- The first member of each list is all there is exactly when each list has one. -/
theorem heads_perm_iff {α β : Type} (f : α → List β) (xs : List α) :
    (xs.map fun x => (some x,(f x).head?)).Perm
      (xs.flatMap fun x => (f x).map fun y => (some x,some y)) ↔ ∀ x ∈ xs, ∃ y, f x = [y] := by
  constructor
  · intro h
    have hne : ∀ x ∈ xs, 1 ≤ (f x).length := by
      intro x hx
      have hm := (h.mem_iff (a := (some x,(f x).head?))).mp (List.mem_map.mpr ⟨x,hx,rfl⟩)
      simp only [List.mem_flatMap, List.mem_map, Prod.mk.injEq] at hm
      obtain ⟨z,-,y,-,-,hy⟩ := hm
      cases hf : f x with
      | nil => simp [hf] at hy
      | cons a as => simp
    have hl := h.length_eq
    rw [List.length_map, List.length_flatMap] at hl
    simp only [List.length_map] at hl
    intro x hx
    exact List.length_eq_one_iff.mp (sum_eq_length hne hl.symm x hx)
  · intro h
    apply List.Perm.of_eq
    rw [List.map_eq_flatMap]
    apply List.flatMap_congr
    intro x hx
    obtain ⟨y,hy⟩ := h x hx
    simp [hy]

theorem sessionEntry_head (host : Str) : sessionEntry env host = (sessionsOf env host).head? := by
  rw [sessionEntry, sessionsOf, List.head?_map, List.head?_filter]

theorem connectionEntryOf_last (host session : Str) :
    connectionEntryOf env (connectionHome host (some session)) =
      (connectionsOf env host session).getLast? := by
  rw [connectionEntryOf, connectionsOf, List.getLast?_map]

theorem rowFor_names (host : Str) : ((rowFor env host).host,(rowFor env host).session) =
    (some host,sessionEntry env host) := by
  unfold rowFor
  simp only
  split <;> rfl

theorem sessions_listed_iff : ((observed rowOf listIscsiDevs env).map fun r =>
    (r.host,r.session)).Perm ((hosts env).flatMap fun h => (sessionsOf env h).map fun s =>
      (some h,some s)) ↔ ∀ h ∈ hosts env, ∃ s, sessionsOf env h = [s] := by
  have hr : (observed rowOf listIscsiDevs env).map (fun r => (r.host,r.session)) =
      (hosts env).map fun h => (some h,(sessionsOf env h).head?) := by
    rw [rows_listIscsiDevs, List.map_map]
    apply List.map_congr_left
    intro h _
    rw [← sessionEntry_head]
    exact rowFor_names h
  rw [hr, heads_perm_iff]

/-! ## The row of a host with one session -/

theorem about_withWild {w : Wild} {host session : Str} {r : IscsiRow} :
    About (env.withWild w) host session r ↔ About env host session r := by
  constructor
  · intro ⟨ht,hc⟩
    exact ⟨ht,hc⟩
  · intro ⟨ht,hc⟩
    exact ⟨ht,hc⟩

theorem rowFor_withWild {host session : Str} (h : sessionsOf env host = [session]) (w : Wild) :
    rowFor (env.withWild w) host =
      match env.dir (connectionHome host (some session)) with
      | none => ⟨some host,some session,none,none,none,none⟩
      | some _ =>
        ⟨some host,some session,(connectionsOf env host session).getLast?,
          some ((env.withWild w).format
            ((firstLine env (attrOfSession (some session) "targetname")).take 63)),
          some ((env.withWild w).format ((firstLine env (attrOfConnection
            (connectionsOf env host session).getLast? "address")).take 63)),
          some ((env.withWild w).format ((firstLine env (attrOfConnection
            (connectionsOf env host session).getLast? "port")).take 63))⟩ := by
  have hs : sessionEntry (env.withWild w) host = some session := by
    have hr : sessionEntry (env.withWild w) host = sessionEntry env host := rfl
    rw [hr, sessionEntry_head, h]
    rfl
  have hc : connectionEntryOf (env.withWild w) (connectionHome host (some session)) =
      (connectionsOf env host session).getLast? := connectionEntryOf_last host session
  unfold rowFor
  simp only [hs, hc]
  rfl

theorem connectionShown_iff (host session : Str) :
    (∀ w, match (connectionsOf env host session).getLast? with
      | some c => c ∈ connectionsOf env host session ∧
          some ((env.withWild w).format ((firstLine env
            (attrOfConnection (some c) "address")).take 63)) =
              some (firstLine env (attrOfConnection (some c) "address")) ∧
          some ((env.withWild w).format ((firstLine env
            (attrOfConnection (some c) "port")).take 63)) =
              some (firstLine env (attrOfConnection (some c) "port"))
      | none => connectionsOf env host session = [] ∧
          (env.withWild w).format ((firstLine env (attrOfConnection none "address")).take 63) = [] ∧
          (env.withWild w).format ((firstLine env (attrOfConnection none "port")).take 63) = []) ↔
      ConnectionShown env (connectionsOf env host session).getLast? := by
  cases hl : (connectionsOf env host session).getLast? with
  | none =>
    have he : connectionsOf env host session = [] := List.getLast?_eq_none_iff.mp hl
    simp only [he, true_and, forall_and, shown_nothing_iff, ConnectionShown]
  | some c =>
    have hm : c ∈ connectionsOf env host session := List.mem_of_getLast? hl
    simp only [hm, true_and, Option.some.injEq, forall_and, shown_plain_iff, ConnectionShown]

theorem about_row_iff {host session : Str} (h : sessionsOf env host = [session]) :
    (∀ w, About env host session (rowFor (env.withWild w) host)) ↔
      Followed env host session := by
  cases hd : env.dir (connectionHome host (some session)) with
  | none =>
    constructor
    · intro ha
      have ht := (ha Wild.silent).target
      rw [rowFor_withWild h, hd] at ht
      cases ht
    · intro hf
      have ho := hf.opens
      simp [hd] at ho
  | some l =>
    constructor
    · intro ha
      constructor
      · exact h
      · simp [hd]
      · rw [← shown_plain_iff]
        intro w
        have ht := (ha w).target
        rw [rowFor_withWild h, hd] at ht
        exact Option.some.inj ht
      · rw [← connectionShown_iff]
        intro w
        have hc := (ha w).connection
        rw [rowFor_withWild h, hd] at hc
        revert hc
        cases (connectionsOf env host session).getLast? <;> exact id
    · intro hf w
      have ht := (@shown_plain_iff env _).mpr hf.target w
      have hc := (connectionShown_iff host session).mpr hf.connection w
      constructor
      · rw [rowFor_withWild h, hd]
        exact congrArg some ht
      · rw [rowFor_withWild h, hd]
        revert hc
        cases (connectionsOf env host session).getLast? <;> exact id

/-- The listing is complete, and every row is about its session, exactly where every host
has one session that can be followed. -/
theorem iscsi_rows_iff (env : Env) : (∀ w, Complete (env.withWild w)) ↔
    ∀ h ∈ hosts env, ∃ s, Followed env h s := by
  constructor
  · intro hc h hh
    obtain ⟨s,hs⟩ : ∃ s, sessionsOf env h = [s] :=
      sessions_listed_iff.mp (hc Wild.silent).sessions h hh
    refine ⟨s,(about_row_iff hs).mp fun w => ?_⟩
    have hn := @rowFor_names (env.withWild w) h
    have he : sessionEntry (env.withWild w) h = some s := by
      rw [sessionEntry_head]
      exact congrArg List.head? hs
    rw [he, Prod.mk.injEq] at hn
    apply about_withWild.mp
    apply (hc w).about
    · rw [rows_listIscsiDevs]
      exact List.mem_map.mpr ⟨h,hh,rfl⟩
    · exact hn.1
    · exact hn.2
  · intro hf w
    constructor
    · rw [sessions_listed_iff]
      intro h hh
      obtain ⟨s,hs⟩ := hf h hh
      exact ⟨s,hs.only⟩
    · intro r hr h s hrh hrs
      rw [rows_listIscsiDevs, List.mem_map] at hr
      obtain ⟨k,hk,rfl⟩ := hr
      obtain ⟨t,ht⟩ := hf k hk
      have hn := @rowFor_names (env.withWild w) k
      have he : sessionEntry (env.withWild w) k = some t := by
        rw [sessionEntry_head]
        exact congrArg List.head? ht.only
      rw [he, hrh, hrs, Prod.mk.injEq, Option.some.injEq, Option.some.injEq] at hn
      obtain ⟨rfl,rfl⟩ := hn
      exact about_withWild.mpr ((about_row_iff ht.only).mpr ht w)

def host3 : Dirent := ⟨lit "host3",.other,by simp [lit, nul]⟩

def session1 : Dirent := ⟨lit "session1",.dir,by simp [lit, nul]⟩

def session2 : Dirent := ⟨lit "session2",.dir,by simp [lit, nul]⟩

def hostWith (l : Listing) : Env :=
  { Env.bare with
    dir := fun path =>
      if path = SYSFS_ISCSI_HOST_PATH then
        some (Listing.ofEntries [host3] (by simp [host3, lit]) (by simp [host3, lit])
          (by simp [host3, lit]))
      else some l }

def noSession : Env := hostWith Listing.empty

def twoSessions : Env :=
  hostWith (Listing.ofEntries [session1,session2] (by simp [session1, session2, lit])
    (by simp [session1, session2, lit]) (by simp [session1, session2, lit]))

/-- The second session has no row, and a host without a session has one. -/
theorem second_session_not_listed :
    (observed rowOf listIscsiDevs twoSessions).map IscsiRow.session = [some session1.dName] ∧
      ¬Complete twoSessions ∧
    (observed rowOf listIscsiDevs noSession).map IscsiRow.session = [none] ∧
      ¬Complete noSession := by
  have h2 : hosts twoSessions = [host3.dName] := by decide +kernel
  have h0 : hosts noSession = [host3.dName] := by decide +kernel
  have s2 : sessionsOf twoSessions host3.dName = [session1.dName,session2.dName] := by
    decide +kernel
  have s0 : sessionsOf noSession host3.dName = [] := by decide +kernel
  have hr : ∀ env : Env, hosts env = [host3.dName] →
      (observed rowOf listIscsiDevs env).map IscsiRow.session =
        [(sessionsOf env host3.dName).head?] := by
    intro env h
    have hn := @rowFor_names env host3.dName
    rw [Prod.mk.injEq] at hn
    rw [rows_listIscsiDevs, h, List.map_singleton, List.map_singleton, hn.2, sessionEntry_head]
  have hc : ∀ env : Env, hosts env = [host3.dName] → Complete env →
      ∃ s, sessionsOf env host3.dName = [s] := by
    intro env h hc
    apply sessions_listed_iff.mp hc.sessions
    rw [h]
    exact List.mem_singleton.mpr rfl
  constructor
  · rw [hr _ h2, s2]
    rfl
  constructor
  · intro h
    obtain ⟨s,hs⟩ := hc _ h2 h
    rw [s2] at hs
    cases hs
  constructor
  · rw [hr _ h0, s0]
    rfl
  · intro h
    obtain ⟨s,hs⟩ := hc _ h0 h
    rw [s0] at hs
    cases hs

end ScsiCli.IscsiRows
