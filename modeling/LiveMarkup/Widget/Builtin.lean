import LiveMarkup.Widget.Class

/-!
# The built-in widget classes

A set of widgets that hold state and raise events without drawing anything.
-/

namespace LiveMarkup.Builtin

/-- The bare widget. -/
def control : WidgetClass :=
  .define "Control" [] [] [] .passive

/-- A container with a style box. -/
def panel : WidgetClass :=
  .define "Panel" [⟨"clip_contents", .flag false⟩] [] [("panel", .style)] .passive

/-- A container that lines up its children. -/
def box (name : String) : WidgetClass :=
  .define name [⟨"alignment", .alignment⟩] [] [("separation", .constant)] .passive

/-- A line of text. -/
def label : WidgetClass :=
  .define "Label"
    [⟨"text", .text⟩, ⟨"autowrap", .flag false⟩, ⟨"horizontal_alignment", .int 0⟩,
      ⟨"label_settings", .labelSettings⟩]
    []
    [("font_color", .color), ("font_outline_color", .color), ("font", .font),
      ("font_size", .fontSize), ("normal", .style)]
    .passive

/-- A push button. -/
def button : WidgetClass :=
  .define "Button" [⟨"text", .text⟩, ⟨"disabled", .flag false⟩,
    ⟨"flat", .flag false⟩, ⟨"icon", .resource⟩] ["pressed"]
    [("font_color", .color), ("font_hover_color", .color), ("font", .font),
      ("font_size", .fontSize), ("icon", .icon), ("normal", .style),
      ("hover", .style), ("pressed", .style)] .button

/-- A button with two states. -/
def checkBox : WidgetClass :=
  .define "CheckBox"
    [⟨"text", .text⟩, ⟨"button_pressed", .flag false⟩, ⟨"disabled", .flag false⟩]
    ["pressed", "toggled"]
    [("font_color", .color), ("checked", .icon), ("unchecked", .icon)]
    .checkBox

/-- A line of text that can be edited. -/
def lineEdit : WidgetClass :=
  .define "LineEdit" [⟨"text", .limitedText "max_length"⟩,
    ⟨"placeholder_text", .text⟩, ⟨"editable", .flag true⟩,
    ⟨"max_length", .int 0⟩] ["text_changed", "text_submitted"]
    [("font_color", .color), ("font_placeholder_color", .color),
      ("font_size", .fontSize), ("normal", .style), ("focus", .style)] .lineEdit

/-- A picture. -/
def textureRect : WidgetClass :=
  .define "TextureRect" [⟨"texture", .resource⟩, ⟨"stretch_mode", .int 0⟩,
    ⟨"flip_h", .flag false⟩] [] [] .passive

/-- Rows of text of which one may be selected. -/
def itemList : WidgetClass :=
  .define "ItemList"
    [⟨"items", .rows "selected"⟩, ⟨"selected", .int (-1)⟩]
    ["item_selected"]
    [("font_color", .color), ("selected", .style)]
    .itemList

/-- All built-in classes. -/
def registry : Registry :=
  [control, panel, box "VBox", box "HBox", label, button, lineEdit, checkBox,
    textureRect, itemList]

end LiveMarkup.Builtin
