import Mathlib.Data.List.Induction
import LiveMarkup.Widget.Builtin
import LiveMarkup.Proofs.Bindings.Written

/-!
# The limit of a line edit

A line edit cuts a text to its limit when the text is written or typed.  The
limit itself may be written at any time, and the text that is held then stays as
it is.  So a line edit holds more than its limit just when the limit was written
below the length of the text held, and which of the two is written first makes a
difference.

So a text that is never longer than the limit is nothing a user of line edits
can rely on.  What can be relied on is `LoneEdit.orders_agree_iff`: the order
does not matter exactly for a text within the limit.

The line edits here are observed by nobody: neither a listener nor a handler
writes to them in between.
-/

namespace LiveMarkup

variable {σ : Type} {deliver : Deliver σ} {widget : WidgetId} {world : World σ}
  {fields : List (String × Field)}

/-! ## Texts and limits -/

/-- The limit that a line edit holds; none if it is not positive. -/
def heldLimit (fields : List (String × Field)) : Int := fieldInt fields "max_length"

/-- The text that a line edit holds. -/
def heldText (fields : List (String × Field)) : String := fieldText fields "text"

/-- The text held is within the limit held, if there is one. -/
def WithinLimit (fields : List (String × Field)) : Prop :=
  0 < heldLimit fields → ((heldText fields).length : Int) ≤ heldLimit fields

theorem limitText_length (text : String) {limit : Int} (positive : 0 < limit) :
    ((limitText limit text).length : Int) ≤ limit := by
  rw [limitText, if_pos positive, String.length_ofList, List.length_take]
  omega

/-- A text within the limit is not cut. -/
theorem limitText_eq_self_iff {limit : Int} {text : String} :
    limitText limit text = text ↔ (0 < limit → (text.length : Int) ≤ limit) := by
  constructor
  · intro whole positive
    rw [← whole]
    exact limitText_length text positive
  · intro within
    rw [limitText]
    split
    case isTrue positive =>
      rw [List.take_of_length_le, String.ofList_toList]
      have short := within positive
      rw [← String.length_toList] at short
      omega
    case isFalse => rfl

theorem heldLimit_put_text (field : Field) :
    heldLimit (putEntry "text" field fields) = heldLimit fields := by
  rw [heldLimit, fieldInt, lookup_putEntry, if_neg (by decide)]
  rfl

theorem heldText_put_text (content : String) :
    heldText (putEntry "text" (.value (.text content)) fields) = content := by
  rw [heldText, fieldText, lookup_putEntry, if_pos rfl]

theorem heldLimit_put_limit (limit : Int) :
    heldLimit (putEntry "max_length" (.value (.int limit)) fields) = limit := by
  rw [heldLimit, fieldInt, lookup_putEntry, if_pos rfl]

theorem heldText_put_limit (field : Field) :
    heldText (putEntry "max_length" field fields) = heldText fields := by
  rw [heldText, fieldText, lookup_putEntry, if_neg (by decide)]
  rfl

/-- A text that is cut before it is kept is within the limit. -/
theorem withinLimit_put_text (text : String) :
    WithinLimit (putEntry "text"
      (.value (.text (limitText (heldLimit fields) text))) fields) := by
  intro positive
  rw [heldLimit_put_text] at positive ⊢
  rw [heldText_put_text]
  exact limitText_length text positive

/-! ## What is done to a line edit -/

/-- Something done to a line edit: a property is written, under any spelling, or
a text is typed. -/
inductive EditAct where
  | write (name : String) (value : Value)
  | type (text : String)

namespace EditAct

/-- Do it, whether it succeeds or not. -/
def run (deliver : Deliver σ) (widget : WidgetId) (act : EditAct)
    (world : World σ) : World σ :=
  match act with
  | write name value => ((widget.write deliver name value).run world).2
  | type text => ((widget.input deliver text).run world).2

/-- Do one thing after the other. -/
def runAll (deliver : Deliver σ) (widget : WidgetId) (acts : List EditAct)
    (world : World σ) : World σ :=
  acts.foldl (fun world act => act.run deliver widget world) world

/-- What a line edit holds afterwards. -/
def after (world : World σ) (fields : List (String × Field)) :
    EditAct → List (String × Field)
  | write name value =>
    match Builtin.lineEdit.property? name with
    | none => fields
    | some property => (world.assignField fields property value).1
  | type text =>
    if fieldFlag fields "editable" false then fields
    else putEntry "text" (.value (.text (limitText (heldLimit fields) text))) fields

/-- It writes a limit that the text held exceeds. -/
def Lowers (world : World σ) (fields : List (String × Field)) : EditAct → Prop
  | write name value =>
    Builtin.lineEdit.property? name = some ⟨"max_length", .int 0⟩ ∧
    ∃ limit,
      world.toInt value = .ok limit ∧ 0 < limit ∧
      limit < (heldText fields).length
  | type _ => False

end EditAct

/-- The properties of a line edit are its text, its limit, and others that hold
neither. -/
theorem Builtin.lineEdit_property {property : PropertySpec}
    (registered : property ∈ lineEdit.properties) :
    property = ⟨"text", .limitedText "max_length"⟩ ∨
    property = ⟨"max_length", .int 0⟩ ∨
    "text" ≠ property.name ∧ "max_length" ≠ property.name ∧
    ∀ selection, property.kind ≠ .rows selection := by
  have known :
      property ∈
        WidgetClass.baseProperties ++
          [⟨"text", .limitedText "max_length"⟩, ⟨"placeholder_text", .text⟩,
            ⟨"editable", .flag true⟩, ⟨"max_length", .int 0⟩] :=
    registered
  simp only [WidgetClass.baseProperties, List.cons_append, List.nil_append,
    List.mem_cons, List.not_mem_nil, or_false] at known
  rcases known with rfl | rfl | rfl | rfl | rfl | rfl | rfl | rfl | rfl |
    rfl <;> simp

namespace EditAct

/-- A limit is set as it is, whatever the text is. -/
theorem after_write_limit (world : World σ) (fields : List (String × Field))
    (limit : Int) :
    (write "max_length" (.int limit)).after world fields =
      putEntry "max_length" (.value (.int limit)) fields := by
  have found : Builtin.lineEdit.property? "max_length" =
        some ⟨"max_length", .int 0⟩ := by
    decide
  simp only [after, found]
  rfl

/-- A text is cut to the limit that is held when it is written. -/
theorem after_write_text (world : World σ) (fields : List (String × Field))
    (text : String) :
    (write "text" (.text text)).after world fields =
      putEntry "text" (.value (.text (limitText (heldLimit fields) text)))
        fields := by
  have found : Builtin.lineEdit.property? "text" =
        some ⟨"text", .limitedText "max_length"⟩ := by
    decide
  simp only [after, found]
  rfl

/-- Nothing done to a line edit whose text is within the limit makes it exceed
the limit, except for writing such a limit. -/
theorem after_withinLimit_iff (world : World σ) (within : WithinLimit fields)
    (act : EditAct) :
    WithinLimit (act.after world fields) ↔ ¬ act.Lowers world fields := by
  cases act with
  | type text =>
    refine iff_of_true ?_ id
    rw [after]
    split
    · exact within
    · exact withinLimit_put_text text
  | write name value =>
    cases found : Builtin.lineEdit.property? name with
    | none =>
      simp only [after, Lowers, found]
      exact iff_of_true within fun lowers => nomatch lowers.1
    | some property =>
      simp only [after, Lowers, found, Option.some.injEq]
      rcases Builtin.lineEdit_property (World.property?_mem found)
        with rfl | rfl | ⟨text, limit, rows⟩
      · refine iff_of_true ?_ fun lowers => nomatch (PropertySpec.mk.inj lowers.1).2
        change WithinLimit (World.keep fields "text" _).1
        cases world.toText value with
        | error => exact within
        | ok text => exact withinLimit_put_text text
      · change WithinLimit
          (World.keep fields "max_length" ((world.toInt value).map .int)).1 ↔ _
        cases world.toInt value with
        | error => exact iff_of_true within fun ⟨_, limit, gave, _⟩ => nomatch gave
        | ok limit =>
          have kept :
              WithinLimit (putEntry "max_length" (.value (.int limit)) fields) ↔
                (0 < limit → ((heldText fields).length : Int) ≤ limit) := by
            rw [WithinLimit, heldLimit_put_limit, heldText_put_limit]
          refine kept.trans ⟨fun fits ⟨_, other, same, positive, low⟩ => ?_,
            fun stays positive => ?_⟩
          · cases same
            exact absurd low (Int.not_lt.mpr (fits positive))
          · exact Int.not_lt.mp fun low => stays ⟨rfl, limit, rfl, positive, low⟩
      · have others :=
          (world.assignField_assigns 0 fields property value).others rows
        refine iff_of_true ?_ fun lowers =>
          limit (congrArg PropertySpec.name lowers.1).symm
        rw [WithinLimit, heldLimit, heldText, fieldInt, fieldText,
          others _ text, others _ limit]
        exact within

end EditAct

/-! ## Line edits in a world -/

/-- A line edit that nobody observes. -/
structure World.LoneEdit (world : World σ) (widget : WidgetId) : Prop where
  cls : (world.widget widget).cls = Builtin.lineEdit
  listeners : (world.widget widget).listeners = .none
  connections : (world.widget widget).connections = []

namespace World.LoneEdit

theorem inside (lone : world.LoneEdit widget) : widget.index < world.widgets.size :=
  Decidable.byContradiction fun outside => by
    have cls := lone.cls
    rw [widget_of_not_lt outside] at cls
    exact absurd (congrArg WidgetClass.name cls) (by decide)

/-- A new line edit is one, and it has no limit. -/
theorem new (world : World σ) :
    (world.newWidget Builtin.lineEdit).2.LoneEdit ⟨world.widgets.size⟩ ∧
    heldLimit ((world.newWidget Builtin.lineEdit).2.widget
      ⟨world.widgets.size⟩).fields = 0 := by
  have found := widget_newWidget world Builtin.lineEdit ⟨world.widgets.size⟩
  rw [if_pos rfl] at found
  refine ⟨⟨?_, ?_, ?_⟩, ?_⟩ <;> rw [found] <;> rfl

/-- A line edit alone stays alone when its fields change. -/
theorem updated (lone : world.LoneEdit widget)
    (change : List (String × Field) → List (String × Field)) :
    (world.updateWidget widget fun old =>
      { old with fields := change old.fields }).LoneEdit widget ∧
    ((world.updateWidget widget fun old =>
      { old with fields := change old.fields }).widget widget).fields =
      change (world.widget widget).fields := by
  have found :=
    widget_updateWidget world widget widget fun old =>
      { old with fields := change old.fields }
  rw [if_pos ⟨rfl, lone.inside⟩] at found
  refine ⟨⟨?_, ?_, ?_⟩, ?_⟩ <;> rw [found]
  · exact lone.cls
  · exact lone.listeners
  · exact lone.connections

/-- A change of it is announced to nobody. -/
theorem notify (lone : world.LoneEdit widget) (name : String) :
    ObjectId.notify deliver (.widget widget) name world = ((), world) := by
  have listeners : world.propertyListeners (.widget widget) = .none :=
    lone.listeners
  simp only [ObjectId.notify, Action.bind_apply, Action.get_apply, listeners]
  rfl

/-- No handler runs when it raises an event. -/
theorem emit (lone : world.LoneEdit widget) (deliver : Deliver σ)
    (name : String) (arguments : List Value) :
    ((widget.emit deliver name arguments).run world).2 = world := by
  unfold WidgetId.emit WidgetId.event
  simp only [Attempt.bind_run, Attempt.getThe_run]
  cases (world.widget widget).cls.event? name with
  | none => rfl
  | some event =>
    simp only [Attempt.pure_run, lone.connections]
    rfl

/-- Whatever is done to it, it stays unobserved. -/
theorem run (lone : world.LoneEdit widget) (deliver : Deliver σ) (act : EditAct) :
    (act.run deliver widget world).LoneEdit widget ∧
      ((act.run deliver widget world).widget widget).fields =
        act.after world (world.widget widget).fields := by
  cases act with
  | write name value =>
    rw [EditAct.run, EditAct.after, WidgetId.write_run, lone.cls]
    cases Builtin.lineEdit.property? name with
    | none => exact ⟨lone, rfl⟩
    | some property =>
      dsimp only
      have later :=
        lone.updated fun _ =>
          (world.assignField (world.widget widget).fields property value).1
      cases (world.assignField (world.widget widget).fields property value).2 with
      | error => exact later
      | ok =>
        rw [later.1.notify]
        exact later
  | type text =>
    have role : (world.widget widget).cls.role = .lineEdit :=
      congrArg WidgetClass.role lone.cls
    rw [EditAct.run, EditAct.after, WidgetId.input]
    simp only [Attempt.bind_run, Attempt.getThe_run, role]
    by_cases fixed : fieldFlag (world.widget widget).fields "editable" false = true
    · rw [if_pos (by rw [fixed]; rfl), if_pos fixed]
      exact ⟨lone, rfl⟩
    · rw [if_neg (by simpa using fixed), if_neg fixed]
      have later := lone.updated (putEntry "text" (.value (.text
        (limitText (heldLimit (world.widget widget).fields) text))))
      rw [Attempt.bind_run, Attempt.lift_run]
      simp only [WidgetId.setField, Action.bind_apply, Action.modify_apply]
      rw [heldLimit] at later
      rw [later.1.notify, Attempt.bind_run]
      have quiet :=
        later.1.emit deliver "text_changed"
          [.text (limitText (fieldInt (world.widget widget).fields "max_length")
            text)]
      rcases raised : (widget.emit deliver "text_changed"
        [.text (limitText (fieldInt (world.widget widget).fields "max_length")
          text)]).run _ with ⟨outcome, reached⟩
      rw [raised] at quiet
      cases quiet
      cases outcome <;> exact later

/-- So it does whatever is done to it, one thing after the other. -/
theorem runAll (lone : world.LoneEdit widget) (deliver : Deliver σ)
    (acts : List EditAct) :
    (EditAct.runAll deliver widget acts world).LoneEdit widget := by
  induction acts generalizing world with
  | nil => exact lone
  | cons act rest hypothesis => exact hypothesis (lone.run deliver act).1

/-- A line edit whose text is within its limit stays so, whatever is done to it,
just as long as no limit is written below the length of the text held. -/
theorem withinLimit_iff (lone : world.LoneEdit widget)
    (within : WithinLimit (world.widget widget).fields) (acts : List EditAct) :
    (∀ done,
      done <+: acts →
      WithinLimit ((EditAct.runAll deliver widget done world).widget
        widget).fields) ↔
      ∀ done act,
        done ++ [act] <+: acts →
        ¬ act.Lowers (EditAct.runAll deliver widget done world)
          ((EditAct.runAll deliver widget done world).widget
            widget).fields := by
  have step : ∀ done act,
      WithinLimit ((EditAct.runAll deliver widget done world).widget
        widget).fields →
      (WithinLimit ((EditAct.runAll deliver widget (done ++ [act]) world).widget
         widget).fields ↔
         ¬ act.Lowers (EditAct.runAll deliver widget done world)
           ((EditAct.runAll deliver widget done world).widget
             widget).fields) := by
    intro done act withinBefore
    have after : EditAct.runAll deliver widget (done ++ [act]) world =
          act.run deliver widget (EditAct.runAll deliver widget done world) :=
      List.foldl_concat ..
    rw [after, ((lone.runAll deliver done).run deliver act).2]
    exact act.after_withinLimit_iff _ withinBefore
  constructor
  · intro always done act reached
    exact (step done act
      (always done ((List.prefix_append done [act]).trans reached))).mp
      (always (done ++ [act]) reached)
  · intro never done
    -- backwards along what was done
    induction done using List.reverseRecOn with
    | nil => exact fun _ => within
    | append_singleton done act hypothesis =>
      intro reached
      exact (step done act
        (hypothesis ((List.prefix_append done [act]).trans reached))).mpr
        (never done act reached)

/-- Of a limit and a text, the text is cut if it is written last.  If it is
written first, to a line edit without a limit, it is kept whole. -/
theorem orders (lone : world.LoneEdit widget) (deliver : Deliver σ)
    (unlimited : heldLimit (world.widget widget).fields ≤ 0) (limit : Int)
    (text : String) :
    heldText
      ((EditAct.runAll deliver widget
        [.write "max_length" (.int limit), .write "text" (.text text)]
        world).widget widget).fields = limitText limit text ∧
    heldText
      ((EditAct.runAll deliver widget
        [.write "text" (.text text), .write "max_length" (.int limit)]
        world).widget widget).fields = text := by
  constructor <;> simp only [EditAct.runAll, List.foldl_cons, List.foldl_nil]
  · obtain ⟨later, limited⟩ := lone.run deliver (.write "max_length" (.int limit))
    rw [(later.run deliver (.write "text" (.text text))).2, limited,
      EditAct.after_write_text, EditAct.after_write_limit, heldText_put_text,
      heldLimit_put_limit]
  · obtain ⟨later, written⟩ := lone.run deliver (.write "text" (.text text))
    rw [(later.run deliver (.write "max_length" (.int limit))).2, written,
      EditAct.after_write_limit, EditAct.after_write_text, heldText_put_limit,
      heldText_put_text, limitText, if_neg (by omega)]

/-- So the two orders agree just when the text is within the limit. -/
theorem orders_agree_iff (lone : world.LoneEdit widget) (deliver : Deliver σ)
    (unlimited : heldLimit (world.widget widget).fields ≤ 0) (limit : Int)
    (text : String) :
    heldText
      ((EditAct.runAll deliver widget
        [.write "max_length" (.int limit), .write "text" (.text text)]
        world).widget widget).fields =
      heldText
        ((EditAct.runAll deliver widget
          [.write "text" (.text text), .write "max_length" (.int limit)]
          world).widget widget).fields ↔
      (0 < limit → (text.length : Int) ≤ limit) := by
  obtain ⟨cut, whole⟩ := lone.orders deliver unlimited limit text
  rw [cut, whole]
  exact limitText_eq_self_iff

end World.LoneEdit

end LiveMarkup
