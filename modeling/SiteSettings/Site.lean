import SiteSettings.Config.Validation

/-! The settings of a documentation site: their schema, and typed access to a
configuration of it. What is absent or of another type reads as absent. -/

namespace SiteSettings.Site

def field (name : String) (rule : Rule) : Field := ⟨name, rule, none, false⟩

def fieldOr (name : String) (rule : Rule) (default : Value) : Field :=
  ⟨name, rule, some default, false⟩

def analyticsNotice : String :=
  "The configuration option 'google_analytics' has been deprecated and will be removed in a " ++
    "future release. Use 'theme.analytics.gtag' instead."

/-- Every setting of a site, in validation order. -/
def schema (registry : Registry) : Schema where
  fields := [
    field Config.originKey (.type .text none),
    ⟨"site_name", .type .text none, none, true⟩,
    field "nav" .nav,
    field "pages" (.removed ⟨some "nav", none⟩),
    field "site_url" (.url true),
    field "site_description" (.type .text none),
    field "site_author" (.type .text none),
    fieldOr "theme" (.themeOf registry) (.text "mkdocs"),
    fieldOr "docs_dir" (.directory true) (.text "docs"),
    fieldOr "site_dir" (.siteDirectory "docs_dir") (.text "site"),
    field "copyright" (.type .text none),
    field "google_analytics"
      (.deprecated ⟨none, some analyticsNotice⟩ (some (.type .list (some 2)))),
    fieldOr "dev_addr" .socketAddress (.text "127.0.0.1:8000"),
    fieldOr "use_directory_urls" (.type .boolean none) (.boolean true),
    field "repo_url" (.url false),
    field "edit_uri" (.type .text none),
    fieldOr "extra_css" (.listOf (.type .text none)) (.list []),
    fieldOr "extra_javascript" (.listOf (.type .text none)) (.list []),
    fieldOr "extra_templates" (.listOf (.type .text none)) (.list []),
    fieldOr "markdown_extensions" (.type .list none)
      (.list [.text "toc", .text "tables", .text "fenced_code"]),
    fieldOr "strict" (.type .boolean none) (.boolean false),
    fieldOr "remote_branch" (.type .text none) (.text "gh-pages"),
    fieldOr "remote_name" (.type .text none) (.text "origin"),
    fieldOr "extra" .freeForm (.object .empty),
    fieldOr "watch" (.listOf (.directory true)) (.list [])]
  passthrough := false

def name? (config : Config) : Option String := config.text? "site_name"

def nav? (config : Config) : Option Value := (config.get? "nav").bind Setting.value?

def docsDir? (config : Config) : Option Path := config.path? "docs_dir"

def siteDir? (config : Config) : Option Path := config.path? "site_dir"

/-- An empty URL counts as none. -/
def url? (config : Config) : Option String :=
  (config.text? "site_url").filter fun url => !url.isEmpty

/-- The path of a URL without slashes at its ends. -/
def urlPath? (text : String) : Option String :=
  match Url.parse text with
  | .ok url => some url.trimmedPath
  | .error _ => none

/-- The site's path below its host. -/
def pathPrefix? (config : Config) : Option String := (url? config).bind urlPath?

def theme? (config : Config) : Option Theme := config.theme? "theme"

def devAddress? (config : Config) : Option SocketAddress :=
  (config.text? "dev_addr").bind SocketAddress.ofText?

def useDirectoryUrls (config : Config) : Bool := (config.boolean? "use_directory_urls").getD true

def strict (config : Config) : Bool := (config.boolean? "strict").getD false

end SiteSettings.Site
