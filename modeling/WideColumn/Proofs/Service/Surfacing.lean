import WideColumn.Proofs.Service.Connection
import WideColumn.Proofs.Service.Incidents

/-! How the faults that a client meets reach its caller. A fault of what was asked for is the cause
of a fault of the service, and so is one of the handler of a scan; but a fault of closing a scanner,
or a connection that is surplus, comes out as it is, and hides the one that came before it. -/
namespace WideColumn.Client

open Store (Incident Point)

variable {α β : Type} {a : Action Client α} {c c' : Client} {met more : List Incident}

/-- A fault of closing a scanner, or of closing a connection while the client keeps another. -/
def IsBare (c : Client) (i : Incident) : Prop :=
  i.origin = .point .scannerClose ∨ i.origin = .point .close ∧ c.service.isEnabled

/-- How a fault reaches the caller: as the cause of one of the service, unless it is one of these
itself. -/
def Becomes (e e' : Fault) : Prop := (∃ action, e' = .store action e) ∨ e.isService ∧ e' = e

theorem storeFault_becomes (action : StoreAction) (e : Fault) :
    Becomes e (storeFault action e) := by
  unfold storeFault
  split
  · exact .inr ⟨‹_›, rfl⟩
  · exact .inl ⟨action, rfl⟩

theorem Becomes.isService {e e' : Fault} (h : Becomes e e') : e'.isService := by
  rcases h with ⟨action, rfl⟩ | ⟨isService, rfl⟩
  · rfl
  · exact isService

/-- No fault has been met; or one of what was asked for, and it has reached the caller. -/
def Wrapped (outcome : Except Fault α) (met : List Incident) : Prop :=
  met = [] ∨ ∃ point e e', Point.closes point = false ∧ met = [⟨.point point, e⟩] ∧
    Becomes e e' ∧ outcome = .error e'

def Wraps (a : Action Client α) : Prop := ∀ c, Action.Leaves Met c a fun ran => Wrapped ran.1

/-- What an action comes to that has met some faults. -/
inductive Surfaces (c : Client) : Except Fault α → List Incident → Prop
  | quiet {outcome : Except Fault α} : Surfaces c outcome []
  | wrapped {point : Point} {e e' : Fault} (becomes : Becomes e e')
      (notBare : ¬ IsBare c ⟨.point point, e⟩) : Surfaces c (.error e') [⟨.point point, e⟩]
  | aborted {row : Option Bytes} {e : Fault} :
      Surfaces c (.error (.handlerAborted row e)) [⟨.handler row, e⟩]
  | bare {before : List Incident} {point : Point} {e : Fault} (isBare : IsBare c ⟨.point point, e⟩)
      (others : ∀ i ∈ before, ¬ IsBare c i) : Surfaces c (.error e) (before ++ [⟨.point point, e⟩])

theorem not_isBare_of_asked {point : Point} (asked : point.closes = false) (c : Client)
    (e : Fault) : ¬ IsBare c ⟨.point point, e⟩ := by
  rintro (same | ⟨same, -⟩)
  · cases Store.Origin.point.inj same
    cases asked
  · cases Store.Origin.point.inj same
    cases asked

theorem Wrapped.surfaces {outcome : Except Fault α} (h : Wrapped outcome met) (c : Client) :
    Surfaces c outcome met := by
  rcases h with rfl | ⟨point, e, e', asked, rfl, becomes, rfl⟩
  · exact .quiet
  · exact .wrapped becomes (not_isBare_of_asked asked c e)

/-- What comes out without a fault has met none. -/
theorem Wrapped.of_ok {x : α} (h : Wrapped (.ok x) met) : met = [] := by
  rcases h with rfl | ⟨_, _, _, _, _, _, failed⟩
  · rfl
  · cases failed

namespace Wraps

theorem of_untroubled (h : Untroubled a) : Wraps a := by
  intro c
  exact (h.meets_none c).mono fun met _ none => .inl none

theorem bind {f : α → Action Client β} (first : Wraps a) (next : ∀ x, Wraps (f x)) :
    Wraps (a >>= f) := by
  intro c
  refine .bind met_isTrace (first c) ?_ ?_
  · rintro x met c' left wrapped
    obtain rfl := wrapped.of_ok
    exact next x c'
  · rintro e met c' - (rfl | ⟨point, e', e'', asked, rfl, becomes, failed⟩)
    · exact .inl rfl
    · cases failed
      exact .inr ⟨point, e', e, asked, rfl, becomes, rfl⟩

/-- What was asked for has failed, and its fault reaches the caller. -/
theorem wrap {f : Except Fault α → Action Client β} (first : FailsAt (·.closes = false) a)
    (next : ∀ x, Wraps (f (.ok x)))
    (wraps : ∀ e, ∃ e', Becomes e e' ∧ FailsWith e' (f (.error e))) :
    Wraps (Action.attempt a >>= f) := by
  intro c
  refine .bind_attempt met_isTrace (first c) ?_
  rintro (e | x) met c' left bare
  · obtain ⟨e', becomes, fails⟩ := wraps e
    refine (fails c').mono ?_
    rintro more - ⟨rfl, failed⟩
    rcases bare with rfl | ⟨point, _, asked, rfl, same⟩
    · exact .inl rfl
    · cases same
      exact .inr ⟨point, e, e', asked, rfl, becomes, failed⟩
  · rcases bare with rfl | ⟨_, _, _, _, failed⟩
    · exact next x c'
    · cases failed

end Wraps

/-! Writing and deleting. -/

theorem putTable_wraps (connection : Connection) (table : String) (mutations : List Mutation) :
    Wraps (putTable connection table mutations) := by
  refine .wrap (writeTable_fails connection table mutations) ?_ fun e => ?_
  · rintro ⟨⟩
    refine .of_untroubled ?_
    refine .bind (.count _ rfl) fun _ => ?_
    refine .bind (.count _ rfl) fun _ => ?_
    refine .bind (.count _ rfl) fun _ => ?_
    refine .bind (.count _ rfl) fun _ => ?_
    exact .bind (.observeBatch _ _) fun _ => .update _
  · refine ⟨_, storeFault_becomes (.put mutations.length table) e, .counted ?_ 1 rfl⟩
    have failing : FailsWith (storeFault (.put mutations.length table) e)
        (count (.puts table false) >>= fun _ =>
          Action.fail (storeFault (.put mutations.length table) e) : Action Client Unit) :=
      .counted (.fail _) 1 rfl
    dsimp only
    split
    · exact .counted failing 1 rfl
    · exact failing

theorem putTables_wraps (connection : Connection) (tables : List (String × List Mutation)) :
    Wraps (putTables connection tables) := by
  induction tables with
  | nil => exact .of_untroubled (.pure ())
  | cons table rest ih => exact .bind (putTable_wraps connection table.1 table.2) fun _ => ih

theorem put_wraps (table : String) (requests : List PutRequest) : Wraps (put table requests) := by
  refine .bind (.of_untroubled (.of_reads requireConnection_reads)) fun connection => ?_
  cases Mutation.batchByTable (some table) requests with
  | error row => exact .of_untroubled (.fail _)
  | ok tables => exact putTables_wraps connection tables.entries

theorem delete_wraps (table : String) (row : Option Bytes) : Wraps (delete table row) := by
  refine .bind (.of_untroubled (.of_reads requireConnection_reads)) fun connection => ?_
  refine .wrap ?_ ?_ fun e => ⟨_, .inl ⟨.delete row table, rfl⟩, .counted (.fail _) 1 rfl⟩
  · refine .bind (lookUp_fails connection table) fun _ => ?_
    refine .bind (.note _) fun _ => ?_
    exact .bind (.log _) fun _ => .pass rfl
  · rintro ⟨⟩
    exact .of_untroubled (.pure ())

/-! Connecting and disconnecting. -/

/-- What comes of a connection that is made: a fault of opening it comes out as it is, and one that
is met meanwhile as a fault of the service. -/
def Connected (outcome : Except Fault Connection) (met : List Incident) : Prop :=
  Wrapped outcome met ∨ ∃ e, met = [⟨.point .connect, e⟩] ∧ outcome = .error e

theorem connect_connected {files : Files} {meanwhile : Action Client Unit}
    (wraps : Wraps meanwhile) (c : Client) :
    Action.Leaves Met c (connect files meanwhile) fun ran => Connected ran.1 := by
  refine .bind met_isTrace (openConnection_fails files c) ?_ ?_
  · rintro connection met c' left (rfl | ⟨_, _, _, _, failed⟩)
    · have rest : Wraps (meanwhile >>= fun _ => note (.connected connection.number) >>=
          fun _ => pure connection) :=
        .bind wraps fun _ => .of_untroubled (.bind (.note _) fun _ => .pure _)
      exact (rest c').mono fun _ _ => .inl
    · cases failed
  · rintro e met c' left (rfl | ⟨_, e', rfl, rfl, same⟩)
    · exact .inl (.inl rfl)
    · cases same
      exact .inr ⟨e, rfl, rfl⟩

/-- A connection that is surplus is closed, and a fault of that comes out as it is. -/
theorem publish_bare (connection : Connection) (c : Client) :
    Action.Leaves Met c (publish connection) fun ran met =>
      met = [] ∨ c.service.isEnabled ∧ ran.2.service.isEnabled ∧
        ∃ e, met = [⟨.point .close, e⟩] ∧ ran.1 = .error e := by
  unfold Action.Leaves
  rw [publish_eq]
  cases enabled : c.service.isEnabled with
  | false =>
    exact ⟨[], ⟨(List.append_nil _).symm, id, nofun, rfl, fun _ _ => rfl⟩, .inl rfl⟩
  | true =>
    obtain ⟨met, left, bare⟩ := closeConnection_fails connection c
    obtain ⟨_, after, -⟩ := closeConnection_calls connection c
    refine ⟨met, left, ?_⟩
    rcases bare with none | ⟨_, e, rfl, occurred, failed⟩
    · exact .inl none
    · refine .inr ⟨rfl, ?_, e, occurred, failed⟩
      rw [if_pos rfl, Service.isEnabled, after.connection]
      exact enabled

/-- A fault of connecting is counted, unless it is one of the service, and comes out. -/
theorem connectFault_fails (e : Fault) : FailsWith (storeFault .connect e)
    (if e.isService then Action.fail e else
      count (.errors e.kind "connection") >>= fun _ => Action.fail (.store .connect e) :
      Action Client α) := by
  unfold storeFault
  split
  · exact .fail e
  · exact .counted (.fail _) 1 rfl

/-- What enabling comes to: a fault of closing a surplus connection is met only where the service
has been enabled meanwhile, and stays so. -/
def Enabled (files : Files) (meanwhile : Action Client Unit) (c : Client)
    (ran : Except Fault Unit × Client) (met : List Incident) : Prop :=
  Wrapped ran.1 met ∨ c.service.isEnabled = false ∧
    (connect files meanwhile c).2.service.isEnabled ∧ ran.2.service.isEnabled ∧
    ∃ e, met = [⟨.point .close, e⟩] ∧ ran.1 = .error e

theorem enableWith_enabled {files : Files} {meanwhile : Action Client Unit}
    (wraps : Wraps meanwhile) (c : Client) :
    Action.Leaves Met c (enableWith files meanwhile) (Enabled files meanwhile c) := by
  have quiet : ∀ {a : Action Client Unit}, Untroubled a →
      Action.Leaves Met c a (Enabled files meanwhile c) := fun untroubled =>
    ((Wraps.of_untroubled untroubled) c).mono fun _ _ => .inl
  unfold enableWith Action.Leaves
  rw [Action.get_bind]
  cases enabled : c.service.isEnabled with
  | true => exact quiet (.pure ())
  | false =>
    rw [if_neg Bool.false_ne_true]
    rcases c.service.validate with e | invalid | ⟨⟩
    · exact quiet (.fail _)
    · exact quiet (.fail _)
    · have first : Action.Leaves Met c (connect files meanwhile) fun ran met =>
          ran.2 = (connect files meanwhile c).2 ∧ Connected ran.1 met :=
        (connect_connected wraps c).mono fun _ _ connected => ⟨rfl, connected⟩
      refine Action.Leaves.bind_attempt met_isTrace first ?_
      rintro (e | connection) met _ - ⟨rfl, connected⟩
      · refine (connectFault_fails e _).mono ?_
        rintro _ - ⟨rfl, comesOut⟩
        left
        rw [List.append_nil]
        rcases connected with (rfl | ⟨point, e', e'', asked, rfl, becomes, failed⟩) |
          ⟨e', rfl, failed⟩
        · exact .inl rfl
        · cases failed
          have same : storeFault .connect e = e := if_pos becomes.isService
          rw [same] at comesOut
          exact .inr ⟨point, e', e, asked, rfl, becomes, comesOut⟩
        · cases failed
          exact .inr ⟨.connect, e, _, rfl, rfl, storeFault_becomes .connect e, comesOut⟩
      · rcases connected with wrapped | ⟨_, _, failed⟩
        · obtain rfl := wrapped.of_ok
          refine (publish_bare connection _).mono ?_
          rintro more - (rfl | ⟨before, after, bare⟩)
          · exact .inl (.inl rfl)
          · exact .inr ⟨enabled, before, after, bare⟩
        · cases failed

/-- Enabling alone makes no surplus connection. -/
theorem enable_wraps (files : Files) : Wraps (enable files) := by
  intro c
  refine (enableWith_enabled (.of_untroubled (.pure ())) c).mono ?_
  rintro met - (wrapped | ⟨disabled, enabled, -⟩)
  · exact wrapped
  · rw [(connect_alone files c).1] at enabled
    cases disabled.symm.trans enabled

/-- Disconnecting leaves no connection, and its fault becomes the cause of one of the service. -/
theorem shutdown_wraps (c : Client) : Action.Leaves Met c shutdown fun ran met =>
    met = [] ∨ ran.2.service.isEnabled = false ∧
      ∃ e, met = [⟨.point .close, e⟩] ∧ ran.1 = .error (.store .close e) := by
  cases current : c.service.connection with
  | none =>
    have idle : shutdown c = (.ok (), c) := by
      unfold shutdown
      rw [Action.get_bind, current]
      rfl
    refine ⟨[], ?_, .inl rfl⟩
    rw [idle]
    exact .refl c
  | some connection =>
    let without : Client := { c with service := { c.service with connection := none } }
    have closing : Action.Leaves Met without (closeConnection connection) fun ran met =>
        ran.2.service.isEnabled = false ∧ Bare (· = .close) ran met := by
      obtain ⟨_, after, -⟩ := closeConnection_calls connection without
      refine (closeConnection_fails connection without).mono fun met _ bare => ⟨?_, bare⟩
      rw [Service.isEnabled, after.connection]
      rfl
    obtain ⟨met, left, disabled, bare⟩ := closing
    have closed := shutdown_eq current
    change shutdown c = ((closeConnection connection without).1.mapError (.store .close),
      (setGauge false (closeConnection connection without).2).2) at closed
    unfold Action.Leaves
    rw [closed]
    generalize closeConnection connection without = ran at left disabled bare
    have noted : Met met c (setGauge false ran.2).2 :=
      ⟨left.noted, left.foreign, left.raised, left.rows, left.scans⟩
    refine ⟨met, noted, ?_⟩
    rcases bare with none | ⟨_, e, rfl, occurred, failed⟩
    · exact .inl none
    · refine .inr ⟨disabled, e, occurred, ?_⟩
      rw [failed]
      rfl

end WideColumn.Client
