import BilingualScript.Text.Layout.Basic

/-!
# Texts in columns

A text is cut to the greatest length of a layout and filled up to the least width.
-/

namespace BilingualScript.Text.Layout

def check (layout : Layout) : Except Fault Unit :=
  if layout.kind ≠ 's' then .error (.unknownKind layout.kind)
  else
    match layout.sign with
    | some sign => .error (.signOfText sign)
    | none =>
      if layout.positiveZero then .error .positiveZeroOfText
      else if layout.alternate then .error .alternateText
      else if layout.alignment = .padding then .error .paddedText
      else .ok ()

def fit (layout : Layout) (text : List Char) : List Char :=
  let text := layout.limit.elim text text.take
  let missing := layout.width - text.length
  let before := match layout.alignment with
    | .right => missing
    | .center => missing / 2
    | .left | .padding => 0
  List.replicate before layout.filler ++ text ++
    List.replicate (missing - before) layout.filler

def apply (layout text : List Char) : Except Fault (List Char) :=
  if layout.isEmpty then .ok text
  else do
    let layout ← read ofTexts layout
    layout.check
    pure (layout.fit text)

end BilingualScript.Text.Layout
