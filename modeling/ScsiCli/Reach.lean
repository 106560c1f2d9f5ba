import ScsiCli.Footprint
import ScsiCli.Requests

/-!
# How far a run reaches

The paths of the files, directories and device nodes that the tool asks about
begin with a few roots, which the command and the sub-command settle; two
machines that answer alike for such paths cannot be told apart by the run. On
the way the files are opened one at a time, and each is closed before the next.
-/

set_option autoImplicit false

namespace ScsiCli.Reach
open ScsiCli.RunTrace ScsiCli.Footprint ScsiCli.ByteString ScsiCli.NumberText ScsiCli.Records
open ScsiCli.Machine ScsiCli.SysfsUtils ScsiCli.DiskUtils ScsiCli.DiskDetails ScsiCli.FcpUtils
open ScsiCli.IscsiUtils ScsiCli.Commands ScsiCli.MachineRules ScsiCli.Completion
open ScsiCli.IscsiCompletion ScsiCli.CommandGrammar ScsiCli.Dispatch ScsiCli.Requests

/-! ## Paths that begin with a root -/

/-- The root itself, or a path whose text goes on from it with a slash. It is a relation of
texts: a `..` further on is not resolved, and such a path may name a file elsewhere. -/
def Extends (root p : Str) : Prop := p = root ∨ root ++ lit "/" <+: p

instance (root p : Str) : Decidable (Extends root p) := inferInstanceAs (Decidable (_ ∨ _))

def FromRoots (roots : List Str) (p : Str) : Prop := ∃ root ∈ roots, Extends root p

instance (roots : List Str) (p : Str) : Decidable (FromRoots roots p) :=
  inferInstanceAs (Decidable (∃ root ∈ roots, Extends root p))

theorem extends_refl (root : Str) : Extends root root := Or.inl rfl

theorem extends_append {root p : Str} (h : Extends root p) (q : Str) :
    Extends root (p ++ lit "/" ++ q) := by
  rcases h with rfl | h
  · exact Or.inr (List.prefix_append _ _)
  · exact Or.inr ((h.trans (List.prefix_append _ _)).trans (List.prefix_append _ _))

theorem extends_rest {root p q : Str} (h : Extends root p) (hq : q.head? = some '/') :
    Extends root (p ++ q) := by
  cases q with
  | nil => simp at hq
  | cons c q =>
    obtain rfl : c = '/' := by simpa using hq
    have hc := extends_append h q
    rwa [List.append_assoc, show lit "/" ++ q = '/' :: q by simp [lit]] at hc

theorem extends_cut {root p : Str} (h : Extends root p) {n : ℕ} (hn : root.length < n) :
    Extends root (cut n p) := by
  unfold cut
  rcases h with rfl | ⟨s,rfl⟩
  · exact Or.inl (List.take_of_length_le (by omega))
  · rcases Nat.lt_or_eq_of_le (show root.length ≤ n-1 by omega) with hl | hl
    · right
      rw [List.prefix_take_iff]
      exact ⟨List.prefix_append _ _,by simp [lit]; omega⟩
    · left
      rw [← hl, List.append_assoc, List.take_left]

theorem extends_trans {root r p : Str} (h : Extends root r) (hp : Extends r p) :
    Extends root p := by
  rcases hp with rfl | ⟨s,rfl⟩
  · exact h
  · exact extends_append h s

def Admits (P : Str → Prop) (root : Str) : Prop := ∀ p, Extends root p → P p

theorem admits_fromRoots {roots : List Str} : ∀ root ∈ roots, Admits (FromRoots roots) root :=
  fun root hr _ hp => ⟨root,hr,hp⟩

/-! ## Machines alike and streams in turn -/

/-- The two machines answer alike wherever a path of `P` is asked about. -/
structure AlikeOn (P : Str → Prop) (env env' : Env) : Prop where
  file : ∀ p, P p → env'.file p = env.file p
  dir : ∀ p, P p → env'.dir p = env.dir p
  openFd : ∀ p, P p → env'.openFd p = env.openFd p
  stat : ∀ p, P p → env'.stat p = env.stat p
  trigger : ∀ p, P p → env'.trigger p = env.trigger p
  wild : env'.wild = env.wild
  mallocSession : env'.mallocSession = env.mallocSession
  mallocConnection : env'.mallocConnection = env.mallocConnection

theorem alikeOn_refl (P : Str → Prop) (env : Env) : AlikeOn P env env :=
  ⟨fun _ _ => rfl,fun _ _ => rfl,fun _ _ => rfl,fun _ _ => rfl,fun _ _ => rfl,rfl,rfl,rfl⟩

def Opens (P : Str → Prop) : Event → Prop
  | .opened (.file p) _ | .opened (.dir p) _ | .delivered p _ => P p
  | _ => True

/-- The file that is open, followed through the trace. A second file must not be
opened beside it, nothing is delivered to another file, and only it is closed. -/
def turn (s : Option Str) : Event → Option (Option Str)
  | .opened (.file p) _ => if s = none then some (some p) else none
  | .closed (.file p) => if s = some p then some none else none
  | .delivered p _ => if s = some p then some s else none
  | _ => some s

/-- The run keeps to the paths of `P`, in both machines alike, and leaves open
the file that was open before. -/
abbrev Stays (P : Str → Prop) (env env' : Env) (s : Option Str) {α : Type} (m : Tool α) : Prop :=
  Orderly (Opens P) turn s env env' m

variable {P : Str → Prop} {env env' : Env} {s : Option Str} {α σ : Type}

theorem stays_print (o : Out) : Stays P env env' s (print o) := orderly_emit trivial rfl

theorem stays_printInfo (t : Str) : Stays P env env' s (printInfo t) := stays_print _

theorem stays_printErr (t : Str) : Stays P env env' s (printErr t) := stays_print _

theorem stays_device (f : Device) (arg : Option Str) :
    Stays P env env' s (emit (.device f arg) : Tool Unit) := orderly_emit trivial rfl

theorem stays_nullFault (k : Sink) : Stays P env env' s (nullFault k : Tool α) :=
  orderly_bind (orderly_emit trivial rfl) fun _ _ => orderly_crash

theorem stays_storeBytes (b : Buf) (n : ℕ) : Stays P env env' s (storeBytes b n) :=
  orderly_ite (fun _ => orderly_emit trivial rfl) fun _ => orderly_pure _

theorem stays_store (b : Buf) (t : Str) : Stays P env env' s (store b t) :=
  orderly_bind (stays_storeBytes _ _) fun _ _ => orderly_pure _

theorem stays_copyArg (b : Buf) (n : ℕ) (t : Str) : Stays P env env' s (copyArg b n t) :=
  orderly_bind (stays_storeBytes _ _) fun _ _ => orderly_pure _

theorem stays_closedir (path : Str) : Stays P env env' s (closedir path) :=
  orderly_emit trivial rfl

section
variable (h : AlikeOn P env env')
include h

theorem format_alike (fmt : Str) : env'.format fmt = env.format fmt := by
  rw [Env.format, Env.format, h.wild]

theorem stays_snprintfFmt (size : ℕ) (fmt : Option Str) :
    Stays P env env' s (snprintfFmt size fmt) := by
  cases fmt with
  | none => exact orderly_bind (orderly_emit trivial rfl) fun _ _ => orderly_pure _
  | some fmt => exact orderly_ask (by rw [format_alike h]) (orderly_pure _)

theorem stays_sprintfFmt (b : Buf) (fmt : Option Str) :
    Stays P env env' s (sprintfFmt b fmt) := by
  cases fmt with
  | none => exact orderly_bind (orderly_emit trivial rfl) fun _ _ => orderly_pure _
  | some fmt => exact orderly_ask (by rw [format_alike h]) (stays_store _ _)

theorem stays_opendir {path : Str} (hp : P path) : Stays P env env' s (opendir path) := by
  refine orderly_ask (by rw [h.dir path hp]) ?_
  cases env.dir path with
  | none => exact orderly_pure _
  | some l => exact orderly_bind (orderly_emit hp rfl) fun _ _ => orderly_pure _

theorem stays_scandirCount {path : Str} (hp : P path) :
    Stays P env env' s (scandirCount path) := by
  refine orderly_ask (by rw [h.dir path hp]) ?_
  cases env.dir path with
  | none => exact orderly_pure _
  | some l =>
    exact orderly_bind (orderly_emit hp rfl) fun _ _ =>
      orderly_bind (orderly_emit trivial rfl) fun _ _ => orderly_pure _

omit h in
theorem stays_stream {path : Str} (hp : P path) {m : Tool σ} {f : σ → Tool α}
    (hm : Stays P env env' (some path) m) (hs : Survives m env)
    (hf : ∀ a, Stays P env env' none (f a)) :
    Stays P env env' none (do
      emit (.opened (.file path) .read)
      let a ← m
      fclose path
      f a) := by
  obtain ⟨a,ha⟩ := hs
  have hr : Returns (emit (.opened (.file path) .read) : Tool Unit) env () := rfl
  have hc : Returns (fclose path) env () := rfl
  refine ⟨same_bind rfl fun _ _ => same_bind hm.same fun a _ => same_bind rfl
    fun _ _ => (hf a).same,?_,?_⟩
  · simp only [emits_bind, emits_emit, emits_fclose]
    exact ⟨hp,fun _ _ => ⟨hm.emits,fun a _ => ⟨trivial,fun _ _ => (hf a).emits⟩⟩⟩
  · rw [monitored_bind_of_returns turn _ hr, monitored_emit, turn, if_pos rfl, Option.bind_some,
      monitored_bind_of_returns turn _ ha, hm.back, Option.bind_some,
      monitored_bind_of_returns turn _ hc, fclose, monitored_emit, turn, if_pos rfl]
    exact (hf a).back

theorem stays_fopenRead {path : Str} (hp : P path) {f : Option Stream → Tool α}
    (hn : Stays P env env' none (f none))
    (hf : ∀ fp, Stays P env env' none (do emit (.opened (.file path) .read); f (some fp))) :
    Stays P env env' none (fopenRead path >>= f) := by
  rw [fopenRead, prog_bind_assoc]
  refine orderly_ask (by rw [h.file path hp]) ?_
  cases env.file path with
  | absent => simpa using hn
  | unreadable => simpa [prog_bind_assoc] using hf none
  | bytes b => simpa [prog_bind_assoc] using hf (some b)

theorem stays_openSysfsStatsFile {path : Str} (hp : P path) :
    Stays P env env' none (openSysfsStatsFile path) := by
  refine stays_fopenRead h hp (orderly_pure _) fun fp => ?_
  have hs := fun f : Unit → Tool (Option Str) =>
    @stays_stream P env env' _ _ path hp (pure ()) f (orderly_pure ()) (by simp)
  cases hg : fgets 64 fp with
  | none => simpa [hg] using hs _ fun _ => orderly_pure none
  | some p => simpa [hg] using hs _ fun _ => orderly_pure (some (removeNewline p))

/-! ## Rows -/

theorem stays_fetch {path : Str} (hp : P path) (c : Copy) :
    Stays P env env' none (c.fetch path) := by
  have ho := stays_openSysfsStatsFile h hp
  cases c with
  | bounded size => exact orderly_bind ho fun p _ => stays_snprintfFmt h size p
  | unbounded b => exact orderly_bind ho fun p _ => stays_sprintfFmt h b p
  | argument size => exact orderly_bind ho fun p _ => orderly_pure _
  | direct =>
    refine orderly_bind ho fun p _ => ?_
    cases p with
    | none => exact stays_nullFault _
    | some p => exact orderly_pure _

omit h in
theorem stays_stripped (strip : Bool) (t : Str) : Stays P env env' s (stripped strip t) := by
  unfold stripped
  cases strip with
  | false => exact orderly_pure _
  | true =>
    cases removeSpace t with
    | none => exact orderly_crash
    | some u => exact orderly_pure _

theorem stays_load {pathOf : Str → Str} {a : Attr σ} (hp : P (pathOf a.file)) (u : σ) :
    Stays P env env' none (Attr.load pathOf u a) :=
  orderly_bind (stays_fetch h hp _) fun _ _ =>
    orderly_bind (stays_stripped _ _) fun _ _ => orderly_pure _

theorem stays_loadAll {pathOf : Str → Str} (hp : ∀ file, P (pathOf file)) (rows : List (Attr σ))
    (u : σ) : Stays P env env' none (loadAll pathOf rows u) :=
  orderly_each fun u _ _ => stays_load h (hp _) u

theorem stays_loadAllInto (b : Buf) {pathOf : Str → Str} (hp : ∀ file, P (pathOf file))
    (rows : List (Attr σ)) (u : σ) : Stays P env env' none (loadAllInto b pathOf rows u) :=
  orderly_each fun u a _ => orderly_bind (stays_store _ _) fun path hr => by
    obtain rfl := (returns_store _ _ _).mp hr
    exact stays_load h (hp _) u

end

end ScsiCli.Reach
