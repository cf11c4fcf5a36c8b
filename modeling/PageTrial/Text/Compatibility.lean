/-!
# Characters that stand for a delimiter

Compatibility normalisation replaces some characters by plainer ones. A few of the replacements
contain a character that delimits the parts of an address, so that normalising an address would
move its parts.
-/

set_option autoImplicit false

namespace PageTrial.Text

/-- The characters beyond ASCII whose compatibility form contains one of `/ ? # @ :`. -/
def hiddenDelimiters : List Char := [
    '\u2047', '\u2048', '\u2049', '\u2100', '\u2101', '\u2105', '\u2106', '\u2a74', '\ufe13',
    '\ufe16', '\ufe55', '\ufe56', '\ufe5f', '\ufe6b', '\uff03', '\uff0f', '\uff1a', '\uff1f',
    '\uff20']

end PageTrial.Text
