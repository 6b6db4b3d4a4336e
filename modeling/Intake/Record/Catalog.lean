import Intake.Record.Type

/-! The types of records: headers and lines of the documents that can be mapped, and what is kept
about feeds, rules and attempts. The kinds of documents have the types of their records, and the tags
by which they are known. -/

namespace Intake.RecordType

/-- The fields of a type together with those that every stored record has. -/
def stored (fields : List Field) : List Field :=
  [.given "id" .identifier, .given "created_at" .dateTime, .vacant "updated_at" .dateTime] ++ fields

/-- A feed through which the documents of a client arrive. -/
def interface : RecordType where
  name := "Interface"
  table := "INTERFACES"
  fields := stored [
    .given "name" .text, .given "interface_type" .text, .vacant "root_element" .text,
    .vacant "client_id" .whole, .vacant "description" .text, .filled "is_active" (.truth true)]

/-- The binding of a place in a document to a field of a record. -/
def mappingRule : RecordType where
  name := "MappingRule"
  table := "MAPPING_RULES"
  fields := stored [
    .given "name" .text, .vacant "source_path" .text, .given "target_field" .text,
    .given "table_name" .text, .vacant "transformation" .text, .filled "is_active" (.truth true),
    .filled "priority" (.whole 0), .filled "required" (.truth false), .vacant "default_value" .text,
    .vacant "description" .text, .vacant "interface_id" .identifier, .vacant "client_id" .whole]

/-- An attempt to process a document. -/
def processedFile : RecordType where
  name := "ProcessedFile"
  table := "PROCESSED_FILES"
  fields := stored [
    .vacant "file_name" .text, .vacant "document_type" .text, .filled "status" (.text "PROCESSING"),
    .vacant "error_message" .text, .vacant "interface_id" .identifier, .vacant "client_id" .whole,
    .vacant "header_id" .identifier, .filled "line_count" (.whole 0),
    .vacant "line_discovery" .text, .vacant "processed_at" .dateTime]

/-- The header of an advance shipping notice. -/
def asnHeader : RecordType where
  name := "AsnHeader"
  table := "ASN_HEADERS"
  fields := stored [
    .vacant "client_id" .whole, .filled "asn_number" (.text "DEFAULT"),
    .filled "asn_type" (.whole 1), .filled "asn_level" (.whole 1), .filled "status" (.text "NEW"),
    .filled "asn_priority" (.whole 0), .vacant "receipt_dttm" .date,
    .filled "schedule_appt" (.whole 0), .vacant "appointment_dttm" .dateTime,
    .vacant "delivery_start_dttm" .dateTime, .vacant "business_partner_id" .text,
    .vacant "business_partner_name" .text, .vacant "assigned_carrier_code" .text,
    .vacant "trailer_number" .text, .vacant "bill_of_lading_number" .text,
    .vacant "pro_number" .text, .vacant "invoice_number" .text, .vacant "invoice_date" .date,
    .amount "total_weight" 4, .amount "total_volume" 4, .amount "total_shipped_qty" 4,
    .amount "shipping_cost" 2, .vacant "shipped_lpn_count" .whole,
    { Field.filled "quality_audit_percent" (.decimal (.ofNat 0)) with places := some 2 },
    .filled "has_import_error" (.truth false), .filled "has_soft_check_error" (.truth false),
    .filled "has_alerts" (.truth false), .filled "is_cogi_generated" (.truth false),
    .filled "is_cancelled" (.truth false), .filled "is_closed" (.truth false),
    .filled "is_gift" (.truth false), .filled "receipt_variance" (.truth false),
    .filled "is_whse_transfer" (.text "0"), .vacant "notes" .text, .vacant "ref_field_1" .text,
    .vacant "ref_field_2" .text, .vacant "ref_field_3" .text, .amount "ref_num_1" 4,
    .amount "ref_num_2" 4, .filled "created_source_type" (.whole 0), .vacant "created_source" .text,
    .filled "last_updated_source_type" (.whole 0), .vacant "last_updated_source" .text]

/-- A line of an advance shipping notice. -/
def asnLine : RecordType where
  name := "AsnLine"
  table := "ASN_LINES"
  fields := stored [
    .vacant "header_id" .identifier, .vacant "client_id" .whole, .vacant "line_number" .text,
    .vacant "item_number" .text, .vacant "item_description" .text, .filled "quantity" (.whole 0),
    .filled "unit_of_measure" (.text "EA"), .vacant "lot_number" .text,
    .vacant "serial_number" .text, .vacant "expiry_date" .date, .amount "unit_price" 4,
    .amount "shipped_qty" 4, .amount "received_qty" 4, .amount "weight" 4,
    .vacant "purchase_order_number" .text, .vacant "notes" .text, .filled "status" (.text "NEW"),
    .filled "asn_detail_status" (.whole 4), .filled "is_cancelled" (.whole 0),
    { Field.filled "qty_conv_factor" (.decimal (.ofNat 1)) with places := some 4 },
    .filled "created_source_type" (.whole 1), .vacant "created_source" .text,
    .filled "last_updated_source_type" (.whole 1), .vacant "last_updated_source" .text]

/-- The header of a customer order. -/
def orderHeader : RecordType where
  name := "OrderHeader"
  table := "ORDER_HEADERS"
  fields := stored [
    .vacant "client_id" .whole, .filled "order_number" (.text "DEFAULT"),
    .filled "creation_type" (.text "DEFAULT"), .vacant "order_type" .text,
    .filled "status" (.text "NEW"), .vacant "priority" .whole, .vacant "order_date_dttm" .dateTime,
    .vacant "pickup_start_dttm" .dateTime, .vacant "delivery_end_dttm" .dateTime,
    .vacant "created_dttm" .dateTime, .vacant "last_updated_dttm" .dateTime,
    .vacant "business_partner_id" .text, .vacant "business_partner_name" .text,
    .vacant "ext_purchase_order" .text, .vacant "bill_to_name" .text, .vacant "bill_to_email" .text,
    .vacant "d_name" .text, .vacant "d_address_1" .text, .vacant "d_city" .text,
    .vacant "d_postal_code" .text, .vacant "d_country_code" .text, .amount "baseline_cost" 2,
    .amount "actual_cost" 2, .amount "total_weight" 4, .filled "is_cancelled" (.truth false),
    .filled "is_hazmat" (.truth false), .filled "is_perishable" (.truth false),
    .vacant "notes" .text, .vacant "ref_field_1" .text, .vacant "ref_field_2" .text,
    .vacant "ref_field_3" .text, .filled "created_source_type" (.whole 0),
    .vacant "created_source" .text, .filled "last_updated_source_type" (.whole 0),
    .vacant "last_updated_source" .text]

/-- A line of a customer order. -/
def orderLine : RecordType where
  name := "OrderLine"
  table := "ORDER_LINES"
  fields := stored [
    .vacant "header_id" .identifier, .vacant "client_id" .whole, .vacant "line_number" .text,
    .vacant "item_number" .text, .vacant "item_description" .text, .filled "quantity" (.whole 0),
    .filled "unit_of_measure" (.text "EA"), .vacant "lot_number" .text, .amount "shipped_qty" 4,
    .amount "retail_price" 2, .vacant "expire_date" .date, .vacant "notes" .text,
    .filled "status" (.text "NEW"), .filled "order_detail_status" (.whole 4),
    .filled "is_cancelled" (.whole 0),
    { Field.filled "qty_conv_factor" (.decimal (.ofNat 1)) with places := some 4 },
    .filled "created_source_type" (.whole 1), .vacant "created_source" .text,
    .filled "last_updated_source_type" (.whole 1), .vacant "last_updated_source" .text]

def all : List RecordType :=
  [interface, mappingRule, processedFile, asnHeader, asnLine, orderHeader, orderLine]

end Intake.RecordType

namespace Intake.DocumentKind

/-- The type of the headers. -/
def headerType : DocumentKind → RecordType
  | asn => .asnHeader
  | order => .orderHeader

/-- The type of the lines. -/
def lineType : DocumentKind → RecordType
  | asn => .asnLine
  | order => .orderLine

/-- The kind of documents that a tag stands for, in any case and with blanks around it. -/
def ofTag? (tag : String) : Option DocumentKind :=
  all.find? fun kind => kind.tag == Text.upper (Text.trim tag)

end Intake.DocumentKind
