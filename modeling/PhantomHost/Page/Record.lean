import PhantomHost.Page.Element
/-!
Elements of the page as JSON values: a list of the kind of the element, what it was given, and the
answer that it got.
-/
namespace PhantomHost.Page

/-- The word for how a text stands on the page. -/
def TextKind.word : TextKind → Text
  | .title => "title"
  | .markdown => "markdown"
  | .caption => "caption"
  | .info => "info"
  | .warning => "warning"
  | .error => "error"
  | .success => "success"
  | .code => "code"

/-- The word for a kind of block. -/
def BlockKind.word : BlockKind → Text
  | .form => "form"
  | .spinner => "spinner"
  | .chatMessage => "chat_message"

/-- A row of the list of files, column by column. -/
def FileRow.record (row : FileRow) : Json :=
  .obj [
    ("Name", .text row.name), ("Permissions", .text row.permissions), ("Owner", row.owner),
    ("Size", .text row.size), ("Modified", .text row.modified)]

def textsRecord (texts : List Text) : Json :=
  .arr (texts.map Json.text)

def Element.record : Element → Json
  | .text kind content => .arr [.text kind.word, .text content]
  | .block kind name => .arr [.text kind.word, .text name]
  | .container => .arr [.text "container"]
  | .columns count => .arr [.text "columns", .nat count]
  | .weighted weights => .arr [.text "columns", .arr (weights.map Json.nat)]
  | .tabs names => .arr [.text "tabs", textsRecord names]
  | .button label key pressed =>
    .arr [.text "button", .text label, (key.map Json.text).getD .null, .bool pressed]
  | .submit label pressed => .arr [.text "submit", .text label, .null, .bool pressed]
  | .textInput label _ value => .arr [.text "text_input", .text label, value]
  | .textArea label => .arr [.text "text_area", .text label]
  | .numberInput label least most value =>
    .arr [.text "number_input", .text label, .int least, .int most, value]
  | .radio label options value => .arr [.text "radio", .text label, textsRecord options, value]
  | .select label options value => .arr [.text "selectbox", .text label, textsRecord options, value]
  | .toggle label value => .arr [.text "toggle", .text label, value]
  | .chatInput label => .arr [.text "chat_input", .text label]
  | .fileInput label key => .arr [.text "file_uploader", .text label, .text key]
  | .table rows => .arr [.text "dataframe", .arr (rows.map FileRow.record)]

end PhantomHost.Page
